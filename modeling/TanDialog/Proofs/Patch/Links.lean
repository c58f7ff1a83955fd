import TanDialog.Proofs.Dialog.Sending
import TanDialog.Proofs.Patch.VariantTwo

/-!
# The steps in a patched queue

A queue of business tasks has no links between tasks. Patching it adds none under the one-step
method and under variant one. Under variant two the tasks found are linked in pairs
(`secondStep?_arena`), and the layout puts every second step behind its first step
(`inOrder_layout`).
-/

namespace TanDialog

namespace Scan

variable {tasks : List Task} {m : Method} {medium : Nat → String}

theorem firstNumber_inj {n i j : Nat} : firstNumber n i = firstNumber n j ↔ i = j := by
  simp only [firstNumber]
  omega

theorem secondNumber_inj {n i j : Nat} : secondNumber n i = secondNumber n j ↔ i = j := by
  simp only [secondNumber]
  omega

theorem firstNumber_ne_secondNumber (n i j : Nat) : firstNumber n i ≠ secondNumber n j := by
  simp only [firstNumber, secondNumber]
  omega

/-! ### Which tasks are linked -/

variable (m medium) in
/-- The requests for the task found as the one with index `j` are the pair with index `j`. -/
theorem getElem?_requestPairs (n : Nat) (found : List (TaskId × Task)) (j : Nat) {b : Nat}
    (hb : b < 2) :
    (requestPairs m medium n found)[2 * j + b]? =
      (found[j]?).bind fun e => (requestPair m (medium j) (secondNumber n j) e.1 e.2)[b]? := by
  induction found using List.reverseRecOn with
  | nil => simp [requestPairs]
  | append_singleton found e ih =>
    have hlen := length_requestPairs m medium n found
    have hpair (t : Task) (k id : TaskId) (s : String) : (requestPair m s k id t).length = 2 := rfl
    rw [requestPairs_concat]
    rcases Nat.lt_trichotomy j found.length with hj | rfl | hj
    · rw [List.getElem?_append_left (by omega), List.getElem?_append_left hj]
      exact ih
    · rw [List.getElem?_append_right (by omega), hlen, Nat.add_sub_cancel_left]
      simp
    · rw [List.getElem?_eq_none (by rw [List.length_append, hlen, hpair]; omega),
        List.getElem?_eq_none (by simp; omega)]
      rfl

/-- The second step for a task found. -/
theorem getElem?_arena_secondNumber (s : Scan) (j : Nat) :
    (s.arena tasks m medium)[secondNumber tasks.length j]? =
      (s.found[j]?).map fun e =>
        { code := "HKTAN", version := m.version, externalId := e.2.externalId
          kind := .tan { process := .submitTan, task := some e.1 } } := by
  have hlen := length_marked tasks (s.found.map Prod.fst)
  have hpair := getElem?_requestPairs m medium tasks.length s.found j Nat.zero_lt_two
  rw [arena, List.getElem?_append_right (by rw [hlen, secondNumber]; omega), hlen, secondNumber,
    Nat.add_sub_cancel_left, ← Nat.add_zero (2 * j), hpair]
  cases s.found[j]? <;> rfl

/-- The first step for a task found. -/
theorem getElem?_arena_firstNumber (s : Scan) (j : Nat) :
    (s.arena tasks m medium)[firstNumber tasks.length j]? =
      (s.found[j]?).map fun e =>
        { code := "HKTAN", version := m.version, externalId := e.2.externalId
          kind := .tan
            { process := .submitOrder, orderSegmentCode := e.2.code, tanMedia := medium j
              step2 := some (secondNumber tasks.length j) } } := by
  have hlen := length_marked tasks (s.found.map Prod.fst)
  have hpair := getElem?_requestPairs m medium tasks.length s.found j Nat.one_lt_two
  rw [arena, List.getElem?_append_right (by rw [hlen, firstNumber]; omega), hlen, firstNumber,
    Nat.add_assoc, Nat.add_sub_cancel_left, hpair]
  cases s.found[j]? <;> rfl

/-- A number of the arena is one of the queue, or one of the two numbers of a task found. -/
theorem number_cases (n i : Nat) :
    i < n ∨ (∃ j, i = secondNumber n j) ∨ ∃ j, i = firstNumber n j := by
  rcases Nat.lt_or_ge i n with h | h
  · exact .inl h
  · rcases Nat.mod_two_eq_zero_or_one (i - n) with hm | hm
    · exact .inr (.inl ⟨(i - n) / 2, by simp only [secondNumber]; omega⟩)
    · exact .inr (.inr ⟨(i - n) / 2, by simp only [firstNumber]; omega⟩)

/-- Business tasks are no requests when they have been marked, whatever stands behind them. -/
theorem tanRequest?_marked_append (hbusiness : ∀ t ∈ tasks, t.kind = .business)
    (ids : List TaskId) (added : List Task) {i : Nat} (hi : i < tasks.length) :
    ((marked tasks ids ++ added)[i]?).bind Task.tanRequest? = none := by
  rw [List.getElem?_append_left (by rwa [length_marked]), getElem?_marked,
    List.getElem?_eq_getElem hi]
  have hkind := hbusiness tasks[i] (List.getElem_mem hi)
  by_cases hm : i ∈ ids <;> simp [hm, Task.tanRequest?, hkind]

/-- The tasks of the queue are no requests in the arena if they are business tasks. -/
theorem tanRequest?_arena_of_lt (hbusiness : ∀ t ∈ tasks, t.kind = .business) (s : Scan) {i : Nat}
    (hi : i < tasks.length) :
    ((s.arena tasks m medium)[i]?).bind Task.tanRequest? = none :=
  tanRequest?_marked_append hbusiness _ _ hi

/-- In the arena of business tasks the first step of each task found is linked to its second step,
and nothing else is linked. -/
theorem secondStep?_arena (hbusiness : ∀ t ∈ tasks, t.kind = .business) (s : Scan)
    (messages : List Message) {f k : TaskId} :
    MessageQueue.secondStep? ⟨s.arena tasks m medium, messages⟩ f = some k ↔
      ∃ j < s.found.length, f = firstNumber tasks.length j ∧ k = secondNumber tasks.length j := by
  rw [MessageQueue.secondStep?_eq_some_iff, MessageQueue.named?, MessageQueue.isRequest]
  simp only [MessageQueue.task?]
  constructor
  · rintro ⟨hnamed, -⟩
    rcases number_cases tasks.length f with hf | ⟨j, rfl⟩ | ⟨j, rfl⟩
    · rw [tanRequest?_arena_of_lt hbusiness s hf] at hnamed
      cases hnamed
    · rw [getElem?_arena_secondNumber] at hnamed
      cases he : s.found[j]? <;> simp [he, Task.tanRequest?] at hnamed
    · rw [getElem?_arena_firstNumber] at hnamed
      cases he : s.found[j]? with
      | none => simp [he] at hnamed
      | some e =>
        obtain ⟨hj, -⟩ := List.getElem?_eq_some_iff.mp he
        simp only [he, Option.map_some, Option.bind_some, Task.tanRequest?,
          Option.some.injEq] at hnamed
        exact ⟨j, hj, rfl, hnamed.symm⟩
  · rintro ⟨j, hj, rfl, rfl⟩
    rw [getElem?_arena_firstNumber, getElem?_arena_secondNumber, List.getElem?_eq_getElem hj]
    exact ⟨rfl, rfl⟩

/-! ### Where linked tasks stand -/

theorem mem_group {n a b : Nat} {message x : Message} :
    x ∈ group n message a b ↔
      x = message ++ (List.range' a (b - a)).map (firstNumber n) ∨
        ∃ j, (a ≤ j ∧ j < b) ∧ x = [secondNumber n j] := by
  simp only [group, List.mem_cons, List.mem_map, List.mem_reverse, List.mem_range'_1]
  refine or_congr_right (exists_congr fun j => ?_)
  rw [eq_comm]
  refine and_congr_left fun _ => ?_
  omega

/-- The first steps of a group are those of the tasks found in it. -/
theorem firstNumber_mem_group {n a b j : Nat} {message x : Message} (hids : ∀ id ∈ message, id < n)
    (hx : x ∈ group n message a b) (hj : firstNumber n j ∈ x) : a ≤ j ∧ j < b := by
  rcases mem_group.mp hx with rfl | ⟨i, -, rfl⟩
  · rcases List.mem_append.mp hj with h | h
    · have : n + 2 * j + 1 < n := hids _ h
      omega
    · obtain ⟨i, hi, he⟩ := List.mem_map.mp h
      obtain rfl := firstNumber_inj.mp he
      have := List.mem_range'_1.mp hi
      omega
  · exact absurd (List.mem_singleton.mp hj) (firstNumber_ne_secondNumber n j i)

/-- The second steps of a group are those of the tasks found in it, each in a message of its own. -/
theorem secondNumber_mem_group {n a b j : Nat} {message x : Message}
    (hids : ∀ id ∈ message, id < n) (hx : x ∈ group n message a b)
    (hj : secondNumber n j ∈ x) : (a ≤ j ∧ j < b) ∧ x = [secondNumber n j] := by
  rcases mem_group.mp hx with rfl | ⟨i, hi, rfl⟩
  · rcases List.mem_append.mp hj with h | h
    · have : n + 2 * j < n := hids _ h
      omega
    · obtain ⟨i, -, he⟩ := List.mem_map.mp h
      exact absurd he (firstNumber_ne_secondNumber n i j)
  · obtain rfl := secondNumber_inj.mp (List.mem_singleton.mp hj)
    exact ⟨hi, rfl⟩

/-- The requests in a layout are for tasks found from its scan on. -/
theorem le_of_mem_layout {messages : List Message}
    (hids : ∀ message ∈ messages, ∀ id ∈ message, id < tasks.length) {s : Scan} {x : Message}
    (hx : x ∈ layout tasks messages s) (j : Nat) :
    (firstNumber tasks.length j ∈ x → s.found.length ≤ j) ∧
      (secondNumber tasks.length j ∈ x → s.found.length ≤ j) := by
  induction messages generalizing s with
  | nil => cases hx
  | cons message messages ih =>
    rcases List.mem_append.mp hx with hx | hx
    · have hmessage := hids message (by simp)
      exact ⟨fun h => (firstNumber_mem_group hmessage hx h).1,
        fun h => (secondNumber_mem_group hmessage hx h).1.1⟩
    · have hle : s.found.length ≤ (s.visitAll tasks message).found.length :=
        length_found_visitAll s message
      have hrest := ih (fun m hm => hids m (by simp [hm])) hx
      exact ⟨fun h => Nat.le_trans hle (hrest.1 h), fun h => Nat.le_trans hle (hrest.2 h)⟩

/-- What it takes for one message to stand before another one. -/
def Before (n : Nat) (x y : Message) : Prop :=
  ∀ j, (firstNumber n j ∈ x → firstNumber n j ∉ y) ∧ (firstNumber n j ∈ y → secondNumber n j ∉ x)

theorem pairwise_before_group (n a b : Nat) (message : Message) :
    (group n message a b).Pairwise (Before n) := by
  have hsingle (y : Message) (hy : y ∈ (List.range' a (b - a)).reverse.map
      fun j => [secondNumber n j]) (j : Nat) : firstNumber n j ∉ y := by
    obtain ⟨i, -, rfl⟩ := List.mem_map.mp hy
    exact fun h => firstNumber_ne_secondNumber n j i (List.mem_singleton.mp h)
  refine List.pairwise_cons.mpr ⟨fun y hy j => ⟨fun _ => hsingle y hy j, fun h => ?_⟩, ?_⟩
  · exact absurd h (hsingle y hy j)
  · refine List.Pairwise.imp_of_mem (R := fun _ _ => True) (fun _ hy _ j => ?_) ?_
    · exact ⟨fun _ => hsingle _ hy j, fun h => absurd h (hsingle _ hy j)⟩
    · exact List.pairwise_of_forall fun _ _ => trivial

theorem pairwise_before_layout {messages : List Message}
    (hids : ∀ message ∈ messages, ∀ id ∈ message, id < tasks.length) (s : Scan) :
    (layout tasks messages s).Pairwise (Before tasks.length) := by
  induction messages generalizing s with
  | nil => exact .nil
  | cons message messages ih =>
    have hmessage := hids message (by simp)
    have hrest : ∀ m ∈ messages, ∀ id ∈ m, id < tasks.length := fun m hm => hids m (by simp [hm])
    refine List.pairwise_append.mpr
      ⟨pairwise_before_group _ _ _ message, ih hrest _, fun x hx y hy j => ?_⟩
    have hy' := le_of_mem_layout hrest hy j
    constructor
    · intro hfx hfy
      have := firstNumber_mem_group hmessage hx hfx
      have := hy'.1 hfy
      omega
    · intro hfy hsx
      have := (secondNumber_mem_group hmessage hx hsx).1
      have := hy'.1 hfy
      omega

/-- No message of a layout holds both steps for a task. -/
theorem secondNumber_notMem_of_firstNumber_mem {messages : List Message}
    (hids : ∀ message ∈ messages, ∀ id ∈ message, id < tasks.length) {s : Scan} {x : Message}
    (hx : x ∈ layout tasks messages s) {j : Nat} (hf : firstNumber tasks.length j ∈ x) :
    secondNumber tasks.length j ∉ x := by
  induction messages generalizing s with
  | nil => cases hx
  | cons message messages ih =>
    rcases List.mem_append.mp hx with hx | hx
    · intro hs
      rw [(secondNumber_mem_group (hids message (by simp)) hx hs).2, List.mem_singleton] at hf
      exact firstNumber_ne_secondNumber _ _ _ hf
    · exact ih (fun m hm => hids m (by simp [hm])) hx

/-- Patching business tasks with a method of variant two puts the steps in order. -/
theorem inOrder_layout (hbusiness : ∀ t ∈ tasks, t.kind = .business) {messages : List Message}
    (hids : ∀ message ∈ messages, ∀ id ∈ message, id < tasks.length) (s s' : Scan) :
    InOrder (MessageQueue.secondStep? ⟨s'.arena tasks m medium, layout tasks messages s⟩)
      (layout tasks messages s) where
  unique := fun f g k hf hg => by
    obtain ⟨i, -, rfl, rfl⟩ := (secondStep?_arena hbusiness s' _).mp hf
    obtain ⟨j, -, rfl, hk⟩ := (secondStep?_arena hbusiness s' _).mp hg
    rw [secondNumber_inj.mp hk]
  within := fun x hx f hf k hk => by
    obtain ⟨j, -, rfl, rfl⟩ := (secondStep?_arena hbusiness s' _).mp hk
    exact secondNumber_notMem_of_firstNumber_mem hids hx hf
  apart := (pairwise_before_layout hids s).imp fun h f k hk => by
    obtain ⟨j, -, rfl, rfl⟩ := (secondStep?_arena hbusiness s' _).mp hk
    exact h j

end Scan

end TanDialog

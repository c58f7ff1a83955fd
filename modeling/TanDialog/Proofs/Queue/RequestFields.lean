import TanDialog.Proofs.Property.Projection
import TanDialog.Proofs.Reply.Series
import TanDialog.Proofs.Text.Hexadecimal
import TanDialog.Queue.Task

/-!
# Written requests

A request is written to paths that are different from each other: its own, thirteen fixed ones below
it, and one for each challenge parameter (`TanRequest.nodup_paths`). No other path is touched, and
nothing that is written gets lost: bytes are told from missing ones by the `B` in front of them, the
parameters come to an end at the first number without one, and the shortest path written to is that
of the request. So the fields tell everything about a request that the bank reads
(`TanRequest.writeFields_exact`).
-/

namespace TanDialog

theorem renderBinary_injective : Function.Injective renderBinary := by
  intro bytes others h
  exact Numeral.bytesHex_injective (List.tail_eq_of_cons_eq (String.ofList_injective h))

/-- Missing bytes are written as the empty text, and empty ones are not. -/
theorem renderedHash_injective :
    Function.Injective fun hash : Option (List UInt8) => (hash.map renderBinary).getD "" := by
  have hne (bytes : List UInt8) : renderBinary bytes ≠ "" := by
    simp [renderBinary, ← String.toList_inj]
  intro hash other h
  cases hash with
  | none =>
    cases other with
    | none => rfl
    | some bytes => exact absurd h.symm (hne bytes)
  | some bytes =>
    cases other with
    | none => exact absurd h (hne bytes)
    | some others => exact congrArg some (renderBinary_injective h)

/-- The property set holds a request below a path, with the given values by their names, and nothing
else. -/
structure PropertySet.HoldsRequest (s : PropertySet) (path : String)
    (values : List (String × String)) : Prop where
  requested : s.get? path = some "requested"
  get? : ∀ v ∈ values, s.get? (path ++ "." ++ v.1) = some v.2
  exists_of_isSome : ∀ key, (s.get? key).isSome →
    key = path ∨ ∃ v ∈ values, key = path ++ "." ++ v.1

namespace TanRequest

variable {r r' : TanRequest} {path path' : String}

/-! ### Names and paths -/

/-- The names of the fields that every request has. -/
def fixedNames : List String :=
  ["process", "ordersegcode", "OrderAccount.bic", "OrderAccount.iban", "OrderAccount.number",
    "OrderAccount.subnumber", "OrderAccount.KIK.blz", "OrderAccount.KIK.country", "orderhash",
    "orderref", "notlasttan", "challengeklass", "tanmedia"]

/-- The name of a challenge parameter. They are counted from one on. -/
def paramName (i : Nat) : String := "ChallengeKlassParams.param" ++ toString (i + 1)

/-- The names of the fields of a request. -/
def names (r : TanRequest) : List String :=
  fixedNames ++ (List.range r.challengeParams.length).map paramName

/-- The paths that a request is written to below a path. -/
def paths (r : TanRequest) (path : String) : List String :=
  path :: r.names.map (path ++ "." ++ ·)

/-- The challenge parameters among the fields of a request. -/
def paramFields (r : TanRequest) : List (String × String) :=
  r.challengeParams.zipIdx.map fun (p, i) => (paramName i, p)

theorem map_fst_fields (r : TanRequest) : r.fields.map Prod.fst = r.names := by
  have hparams : r.paramFields.map Prod.fst =
      (List.range r.challengeParams.length).map paramName := by
    rw [List.range_eq_range', ← List.zipIdx_map_snd 0 r.challengeParams, List.map_map, paramFields,
      List.map_map]
    rfl
  rw [names, ← hparams]
  rfl

theorem toList_paramName (i : Nat) :
    (paramName i).toList = "ChallengeKlassParams.param".toList ++ (toString (i + 1)).toList :=
  String.toList_append ..

theorem paramName_injective : Function.Injective paramName := by
  intro i j h
  have htext := congrArg String.toList h
  rw [toList_paramName, toList_paramName] at htext
  exact Nat.succ.inj (Path.toString_injective
    (String.toList_injective (List.append_cancel_left htext)))

theorem paramName_notMem_fixedNames (i : Nat) : paramName i ∉ fixedNames := by
  have hfixed : ∀ name ∈ fixedNames, name.toList.head? ≠ some 'C' := by simp [fixedNames]
  have hparam : (paramName i).toList.head? = some 'C' := by rw [toList_paramName]; rfl
  exact fun h => hfixed _ h hparam

theorem nodup_names (r : TanRequest) : r.names.Nodup := by
  refine List.nodup_append.mpr ⟨by simp [fixedNames], List.nodup_range.map paramName_injective, ?_⟩
  rintro name hname _ hparam rfl
  obtain ⟨i, -, rfl⟩ := List.mem_map.mp hparam
  exact paramName_notMem_fixedNames i hname

theorem below_injective (path : String) : Function.Injective (path ++ "." ++ ·) := by
  intro name name' h
  have htext := congrArg String.toList h
  simp only [String.toList_append] at htext
  exact String.toList_injective (List.append_cancel_left htext)

theorem length_lt_of_below (path name : String) : path.length < (path ++ "." ++ name).length := by
  simp only [String.length_append]
  have hpoint : ".".length = 1 := rfl
  omega

/-- No path is written to twice. -/
theorem nodup_paths (r : TanRequest) (path : String) : (r.paths path).Nodup := by
  refine List.nodup_cons.mpr ⟨fun h => ?_, r.nodup_names.map (below_injective path)⟩
  obtain ⟨name, -, hname⟩ := List.mem_map.mp h
  exact absurd (congrArg String.length hname) (length_lt_of_below path name).ne'

theorem length_le_of_mem_paths {key : String} (h : key ∈ r.paths path) :
    path.length ≤ key.length := by
  rcases List.mem_cons.mp h with rfl | h
  · exact Nat.le_refl _
  · obtain ⟨name, -, rfl⟩ := List.mem_map.mp h
    exact (length_lt_of_below path name).le

/-! ### What is written -/

/-- The paths and values that a request is written as. -/
def entries (r : TanRequest) (path : String) : List (String × String) :=
  (path, "requested") :: r.fields.map fun f => (path ++ "." ++ f.1, f.2)

theorem writeFields_eq (r : TanRequest) (path : String) (s : PropertySet) :
    r.writeFields path s = s.insertAll (r.entries path) := by
  rw [writeFields, entries, Dictionary.insertAll_cons]

theorem map_fst_entries (r : TanRequest) (path : String) :
    (r.entries path).map Prod.fst = r.paths path := by
  rw [entries, List.map_cons, List.map_map, paths, ← map_fst_fields, List.map_map]
  rfl

theorem get?_writeFields_of_mem {key value : String} (h : (key, value) ∈ r.entries path)
    (s : PropertySet) : (r.writeFields path s).get? key = some value := by
  have hnodup : ((r.entries path).map Prod.fst).Nodup := map_fst_entries r path ▸ r.nodup_paths path
  rw [writeFields_eq]
  exact s.get?_insertAll_of_mem h fun v hv =>
    congrArg Prod.snd (List.inj_on_of_nodup_map hnodup hv h rfl)

theorem get?_writeFields_of_notMem {key : String} (h : key ∉ r.paths path) (s : PropertySet) :
    (r.writeFields path s).get? key = s.get? key := by
  rw [writeFields_eq]
  refine s.get?_insertAll_of_forall_ne fun e he heq => h ?_
  rw [← map_fst_entries]
  exact List.mem_map.mpr ⟨e, he, heq⟩

theorem mem_entries_of_mem_fields {f : String × String} (h : f ∈ r.fields) :
    (path ++ "." ++ f.1, f.2) ∈ r.entries path :=
  List.mem_cons_of_mem _ (List.mem_map_of_mem h)

/-- Nothing but the own path of a request and those of its fields is written to. -/
theorem exists_mem_fields_of_isSome {key : String}
    (h : ((r.writeFields path ∅).get? key).isSome) :
    key = path ∨ ∃ f ∈ r.fields, key = path ++ "." ++ f.1 := by
  have hmem : key ∈ r.paths path := by
    by_contra hnot
    rw [get?_writeFields_of_notMem hnot, Dictionary.get?_empty] at h
    cases h
  refine (List.mem_cons.mp hmem).imp_right fun hbelow => ?_
  rw [← map_fst_fields, List.map_map] at hbelow
  obtain ⟨f, hf, rfl⟩ := List.mem_map.mp hbelow
  exact ⟨f, hf, rfl⟩

/-- On its own a request is written with the values of its fields, and with nothing else. -/
theorem holdsRequest_writeFields (r : TanRequest) (path : String) :
    (r.writeFields path ∅).HoldsRequest path r.fields where
  requested := get?_writeFields_of_mem List.mem_cons_self ∅
  get? _ hf := get?_writeFields_of_mem (mem_entries_of_mem_fields hf) ∅
  exists_of_isSome _ h := exists_mem_fields_of_isSome h

theorem mem_fields_of_mem_params {i : Nat} {p : String} (h : r.challengeParams[i]? = some p) :
    (paramName i, p) ∈ r.fields :=
  List.mem_append_right _ (List.mem_map.mpr ⟨(p, i), List.mem_zipIdx_iff_getElem?.mpr h, rfl⟩)

/-- The challenge parameters are found under their numbers, and none behind the last one. -/
theorem get?_writeFields_paramName (r : TanRequest) (path : String) (i : Nat) :
    (r.writeFields path ∅).get? (path ++ "." ++ paramName i) = r.challengeParams[i]? := by
  cases hparam : r.challengeParams[i]? with
  | some p =>
    exact get?_writeFields_of_mem (mem_entries_of_mem_fields (mem_fields_of_mem_params hparam)) ∅
  | none =>
    refine (get?_writeFields_of_notMem (fun h => ?_) ∅).trans (Dictionary.get?_empty _)
    rcases List.mem_cons.mp h with h | h
    · exact absurd (congrArg String.length h) (length_lt_of_below path (paramName i)).ne'
    · obtain ⟨name, hname, hbelow⟩ := List.mem_map.mp h
      obtain rfl := below_injective path hbelow
      rcases List.mem_append.mp hname with hfixed | hparams
      · exact paramName_notMem_fixedNames i hfixed
      · obtain ⟨j, hj, hij⟩ := List.mem_map.mp hparams
        obtain rfl := paramName_injective hij
        rw [List.getElem?_eq_none_iff] at hparam
        exact absurd (List.mem_range.mp hj) (Nat.not_lt.mpr hparam)

/-! ### What is read -/

/-- Two requests that mean the same to the bank: they agree in everything but the tasks of the queue
that they are linked to, and a missing account counts as one without any entry. -/
structure Agree (r r' : TanRequest) : Prop where
  process : r.process = r'.process
  orderSegmentCode : r.orderSegmentCode = r'.orderSegmentCode
  orderHash : r.orderHash = r'.orderHash
  orderAccount : r.orderAccount.getD {} = r'.orderAccount.getD {}
  orderRef : r.orderRef = r'.orderRef
  notLastTan : r.notLastTan = r'.notLastTan
  challengeClass : r.challengeClass = r'.challengeClass
  challengeParams : r.challengeParams = r'.challengeParams
  tanMedia : r.tanMedia = r'.tanMedia

/-- The fields tell all of this. -/
theorem fields_eq_iff : r.fields = r'.fields ↔ Agree r r' := by
  constructor
  · intro h
    obtain ⟨hfixed, hparams⟩ := List.append_inj h rfl
    have hvalues := congrArg (List.map Prod.snd) hparams
    simp only [List.map_map, Function.comp_def] at hvalues
    simp only [List.cons.injEq, Prod.mk.injEq, true_and, and_true] at hfixed
    obtain ⟨hprocess, hcode, hbic, hiban, hnumber, hsubnumber, hblz, hcountry, hhash, hreference,
      hlast, hclass, hmedia⟩ := hfixed
    exact {
      process := TanProcess.code_injective hprocess
      orderSegmentCode := hcode
      orderHash := renderedHash_injective hhash
      orderAccount := by
        generalize r.orderAccount.getD {} = a, r'.orderAccount.getD {} = b at *
        cases a; cases b; simp_all
      orderRef := hreference
      notLastTan := by cases hr : r.notLastTan <;> cases hr' : r'.notLastTan <;> simp_all
      challengeClass := hclass
      challengeParams := by simpa using hvalues
      tanMedia := hmedia }
  · intro h
    simp only [fields, h.process, h.orderSegmentCode, h.orderHash, h.orderAccount, h.orderRef,
      h.notLastTan, h.challengeClass, h.challengeParams, h.tanMedia]

/-- The shortest path that a request is written to is its own. -/
theorem path_eq_of_writeFields_eq (h : r.writeFields path ∅ = r'.writeFields path' ∅) :
    path = path' := by
  have hmem {q q' : TanRequest} {p p' : String} (h : q.writeFields p ∅ = q'.writeFields p' ∅) :
      p ∈ q'.paths p' := by
    by_contra hnot
    have hown : (q.writeFields p ∅).get? p = some "requested" :=
      get?_writeFields_of_mem List.mem_cons_self ∅
    rw [h, get?_writeFields_of_notMem hnot, Dictionary.get?_empty] at hown
    cases hown
  rcases List.mem_cons.mp (hmem h) with heq | hbelow
  · exact heq
  · obtain ⟨name, -, rfl⟩ := List.mem_map.mp hbelow
    exact absurd (length_le_of_mem_paths (hmem h.symm)) (length_lt_of_below path' name).not_ge

/-- The fields are the names with what is found under them. -/
theorem fields_eq_map_names (r : TanRequest) (path : String) :
    r.fields = r.names.map fun name =>
      (name, ((r.writeFields path ∅).get? (path ++ "." ++ name)).getD "") := by
  rw [← map_fst_fields, List.map_map]
  refine (List.map_id _).symm.trans (List.map_congr_left fun f hf => ?_)
  rw [Function.comp_apply, get?_writeFields_of_mem (mem_entries_of_mem_fields hf)]
  rfl

/-- What is written tells the path and the fields of a request. -/
theorem writeFields_eq_iff :
    r.writeFields path ∅ = r'.writeFields path' ∅ ↔ path = path' ∧ r.fields = r'.fields := by
  constructor
  · intro h
    obtain rfl := path_eq_of_writeFields_eq h
    have hparams : r.challengeParams = r'.challengeParams := List.ext_getElem? fun i => by
      rw [← get?_writeFields_paramName r path, h, get?_writeFields_paramName]
    have hnames : r.names = r'.names := by rw [names, names, hparams]
    refine ⟨rfl, ?_⟩
    rw [fields_eq_map_names r path, fields_eq_map_names r' path, h, hnames]
  · rintro ⟨rfl, hfields⟩
    rw [writeFields, writeFields, hfields]

/-- **Written requests.** A request is written to its own path and to those of its fields, all of
them different, and nothing else is touched. On their own, two requests are written alike exactly if
they are written to the same path and agree. -/
theorem writeFields_exact (r r' : TanRequest) (path path' : String) (s : PropertySet) :
    (r.paths path).Nodup ∧ (r.writeFields path s).get? path = some "requested" ∧
      (∀ f ∈ r.fields, (r.writeFields path s).get? (path ++ "." ++ f.1) = some f.2) ∧
      (∀ key ∉ r.paths path, (r.writeFields path s).get? key = s.get? key) ∧
      (r.writeFields path ∅ = r'.writeFields path' ∅ ↔ path = path' ∧ Agree r r') := by
  refine ⟨r.nodup_paths path, get?_writeFields_of_mem List.mem_cons_self s,
    fun f hf => get?_writeFields_of_mem (mem_entries_of_mem_fields hf) s,
    fun key hkey => get?_writeFields_of_notMem hkey s, ?_⟩
  rw [writeFields_eq_iff, fields_eq_iff]

end TanRequest

end TanDialog

import Mathlib.Data.String.Basic
import TanDialog.Flicker.Reader
import TanDialog.Proofs.Text.Blank

/-!
# Payloads within a challenge text

A text is searched for the first of each marker, and what stands between them, without the four
bytes of a length, is read instead of it. `splitAtMarker?` finds the first occurrence
(`splitAtMarker?_eq_some_iff`), which can be said by its byte position as well (`FirstAt`).

A payload that has been taken out of a text is not searched again: the second marker can not stand
in it, because it would have ended the payload before. So nothing but the payload counts, and a text
reads as its payload does (`Code.read_of_inline`), whatever is around it.
-/

namespace TanDialog

open String (utf8Len utf8Len_append utf8Len_le_of_prefix)

/-! ### Texts and their bytes -/

namespace Text

theorem dropBytes?_append (xs ys : List Char) : dropBytes? (utf8Len xs) (xs ++ ys) = some ys := by
  induction xs with
  | nil => exact dropBytes?_zero ys
  | cons c xs ih =>
    obtain ⟨n, hn⟩ := Nat.exists_eq_succ_of_ne_zero
      (Nat.ne_of_gt (Nat.add_pos_right (utf8Len xs) c.utf8Size_pos))
    have hrest : n + 1 - c.utf8Size = utf8Len xs := by omega
    rw [String.utf8Len_cons, hn, List.cons_append, dropBytes?, if_pos (by omega), hrest, ih]

/-- Of two beginnings of a text, the one that has more bytes goes on from the other one. -/
theorem isPrefix_of_utf8Len_le {xs ys text : List Char} (hx : xs <+: text) (hy : ys <+: text)
    (h : utf8Len xs ≤ utf8Len ys) : xs <+: ys := by
  rcases Nat.le_total xs.length ys.length with hle | hle
  · exact List.prefix_of_prefix_length_le hx hy hle
  · obtain ⟨more, rfl⟩ := List.prefix_of_prefix_length_le hy hx hle
    have hmore : utf8Len more = 0 := by
      rw [utf8Len_append] at h
      omega
    obtain rfl := String.utf8Len_eq_zero.mp hmore
    exact ⟨[], by rw [List.append_nil, List.append_nil]⟩

end Text

namespace Flicker

/-! ### The first occurrence of a marker -/

variable {marker text before after : List Char}

/-- The search finds the first occurrence. -/
theorem splitAtMarker?_eq_some_iff :
    splitAtMarker? marker text = some (before, after) ↔
      text = before ++ marker ++ after ∧
        ∀ before' after', text = before' ++ marker ++ after' → before.length ≤ before'.length := by
  induction text generalizing before with
  | nil =>
    cases marker with
    | nil =>
      constructor
      · intro h
        obtain ⟨rfl, rfl⟩ := Prod.mk.inj (Option.some.inj h)
        exact ⟨rfl, fun _ _ _ => Nat.zero_le _⟩
      · rintro ⟨h, -⟩
        obtain ⟨hbefore, rfl⟩ := List.append_eq_nil_iff.mp h.symm
        obtain ⟨rfl, -⟩ := List.append_eq_nil_iff.mp hbefore
        rfl
    | cons m marker =>
      refine iff_of_false nofun fun h => ?_
      have hmem : m ∈ before ++ m :: marker ++ after := by simp
      rw [← h.1] at hmem
      cases hmem
  | cons c cs ih =>
    rw [splitAtMarker?]
    by_cases hprefix : marker.isPrefixOf (c :: cs) = true
    · rw [if_pos hprefix]
      obtain ⟨rest, hrest⟩ := List.isPrefixOf_iff_prefix.mp hprefix
      have hdrop : (c :: cs).drop marker.length = rest := by rw [← hrest, List.drop_left]
      rw [hdrop]
      constructor
      · intro h
        obtain ⟨rfl, rfl⟩ := Prod.mk.inj (Option.some.inj h)
        exact ⟨hrest.symm, fun _ _ _ => Nat.zero_le _⟩
      · rintro ⟨h, hfirst⟩
        obtain rfl : before = [] :=
          List.eq_nil_of_length_eq_zero (Nat.le_zero.mp (hfirst [] rest hrest.symm))
        rw [List.append_cancel_left (hrest.trans h)]
    · rw [if_neg hprefix]
      -- the marker does not stand at the front, so that something is in front of it
      have hfront : ∀ before' after', c :: cs = before' ++ marker ++ after' →
          ∃ more, before' = c :: more ∧ cs = more ++ marker ++ after' := by
        intro before' after' h
        cases before' with
        | nil => exact absurd (List.isPrefixOf_iff_prefix.mpr ⟨after', h.symm⟩) hprefix
        | cons d more =>
          obtain ⟨rfl, hcs⟩ := List.cons_eq_cons.mp h
          exact ⟨more, rfl, hcs⟩
      constructor
      · intro h
        obtain ⟨⟨more, after'⟩, hmore, heq⟩ := Option.map_eq_some_iff.mp h
        obtain ⟨rfl, rfl⟩ := Prod.mk.inj heq
        obtain ⟨rfl, hfirst⟩ := ih.mp hmore
        refine ⟨rfl, fun before' after' h => ?_⟩
        obtain ⟨more', rfl, hcs⟩ := hfront before' after' h
        exact Nat.succ_le_succ (hfirst more' after' hcs)
      · rintro ⟨h, hfirst⟩
        obtain ⟨more, rfl, hcs⟩ := hfront before after h
        have hmore : splitAtMarker? marker cs = some (more, after) :=
          ih.mpr ⟨hcs, fun more' after' h' =>
            Nat.le_of_succ_le_succ (hfirst (c :: more') after' (congrArg (c :: ·) h'))⟩
        rw [hmore]
        rfl

theorem splitAtMarker?_eq_none (h : ¬ marker <:+: text) : splitAtMarker? marker text = none := by
  rw [Option.eq_none_iff_forall_ne_some]
  rintro ⟨before, after⟩ hsplit
  exact h ⟨before, after, (splitAtMarker?_eq_some_iff.mp hsplit).1.symm⟩

/-- A text stands in another one, behind the given number of bytes. -/
def StandsAt (part text : List Char) (start : Nat) : Prop :=
  ∃ before after, text = before ++ part ++ after ∧ utf8Len before = start

/-- A marker stands in a text for the first time behind the given number of bytes. -/
structure FirstAt (marker text : List Char) (start : Nat) : Prop where
  stands : StandsAt marker text start
  first : ∀ start', StandsAt marker text start' → start ≤ start'

theorem firstAt_of_splitAtMarker? (h : splitAtMarker? marker text = some (before, after)) :
    FirstAt marker text (utf8Len before) := by
  obtain ⟨htext, hfirst⟩ := splitAtMarker?_eq_some_iff.mp h
  refine ⟨⟨before, after, htext, rfl⟩, ?_⟩
  rintro _ ⟨before', after', htext', rfl⟩
  have hprefix : before <+: text := ⟨marker ++ after, by rw [htext, List.append_assoc]⟩
  have hprefix' : before' <+: text := ⟨marker ++ after', by rw [htext', List.append_assoc]⟩
  exact utf8Len_le_of_prefix
    (List.prefix_of_prefix_length_le hprefix hprefix' (hfirst before' after' htext'))

/-- A marker that stands somewhere for the first time is found there. -/
theorem FirstAt.exists_split {start : Nat} (h : FirstAt marker text start) :
    ∃ before after, splitAtMarker? marker text = some (before, after) ∧
      text = before ++ marker ++ after ∧ utf8Len before = start := by
  obtain ⟨before, after, htext, rfl⟩ := h.stands
  refine ⟨before, after, splitAtMarker?_eq_some_iff.mpr ⟨htext, fun before' after' htext' => ?_⟩,
    htext, rfl⟩
  have hprefix : before <+: text := ⟨marker ++ after, by rw [htext, List.append_assoc]⟩
  have hprefix' : before' <+: text := ⟨marker ++ after', by rw [htext', List.append_assoc]⟩
  exact (Text.isPrefix_of_utf8Len_le hprefix hprefix'
    (h.first _ ⟨before', after', htext', rfl⟩)).length_le

/-! ### The payload between the markers -/

theorem inlinePayload?_eq_none (h : ¬ payloadMarker <:+: text ∨ ¬ textMarker <:+: text) :
    inlinePayload? text = none := by
  rw [inlinePayload?]
  cases hsplit : splitAtMarker? textMarker text with
  | none => rfl
  | some parts =>
    obtain ⟨before, after⟩ := parts
    obtain ⟨htext, -⟩ := splitAtMarker?_eq_some_iff.mp hsplit
    have hpayload : ¬ payloadMarker <:+: before := by
      rcases h with h | h
      · exact fun hmarker => h (hmarker.trans ⟨[], textMarker ++ after, by simp [htext]⟩)
      · exact absurd ⟨before, after, htext.symm⟩ h
    simp only [Option.bind_eq_bind, Option.bind_some, splitAtMarker?_eq_none hpayload,
      Option.bind_none]

/-- What stands between the first marker with its length and the other one is the payload. -/
theorem inlinePayload?_of_firstAt {payload : List Char} {start₁ start₂ : Nat}
    (h₁ : FirstAt payloadMarker text start₁) (h₂ : FirstAt textMarker text start₂)
    (hpayload : StandsAt payload text (start₁ + 10))
    (hend : start₁ + 10 + utf8Len payload = start₂) :
    inlinePayload? text = some payload ∧ ¬ textMarker <:+: payload := by
  obtain ⟨before₁, after₁, hsplit₁, htext₁, rfl⟩ := h₁.exists_split
  obtain ⟨before₂, after₂, hsplit₂, htext₂, rfl⟩ := h₂.exists_split
  obtain ⟨front, after, htext, hfront⟩ := hpayload
  have hmarker : utf8Len payloadMarker = 6 := by decide
  have hmarker' : utf8Len textMarker = 8 := by decide
  -- the first marker and four more bytes are in front of the payload
  obtain ⟨digits, rfl⟩ : before₁ ++ payloadMarker <+: front := by
    have hprefix₁ : before₁ ++ payloadMarker <+: text := ⟨after₁, htext₁.symm⟩
    have hprefix : front <+: text := ⟨payload ++ after, by rw [htext, List.append_assoc]⟩
    refine Text.isPrefix_of_utf8Len_le hprefix₁ hprefix ?_
    rw [utf8Len_append, hmarker, hfront]
    omega
  have hdigits : utf8Len digits = 4 := by
    rw [utf8Len_append, utf8Len_append, hmarker] at hfront
    omega
  -- and the payload ends where the other marker stands
  have hbefore : before₁ ++ payloadMarker ++ digits ++ payload = before₂ := by
    have hlength : utf8Len (before₁ ++ payloadMarker ++ digits ++ payload) = utf8Len before₂ := by
      rw [utf8Len_append, hfront, hend]
    have hprefix : before₁ ++ payloadMarker ++ digits ++ payload <+: text := ⟨after, htext.symm⟩
    have hprefix₂ : before₂ <+: text := ⟨textMarker ++ after₂, by rw [htext₂, List.append_assoc]⟩
    exact (Text.isPrefix_of_utf8Len_le hprefix hprefix₂ hlength.le).eq_of_length_le
      (Text.isPrefix_of_utf8Len_le hprefix₂ hprefix hlength.ge).length_le
  have hsplit : splitAtMarker? payloadMarker before₂ = some (before₁, digits ++ payload) := by
    refine splitAtMarker?_eq_some_iff.mpr ⟨by simp [← hbefore], fun before' after' h => ?_⟩
    refine (splitAtMarker?_eq_some_iff.mp hsplit₁).2 before' (after' ++ textMarker ++ after₂) ?_
    rw [htext₂, h]
    simp
  constructor
  · have hdrop := Text.dropBytes?_append digits payload
    rw [hdigits] at hdrop
    simp only [inlinePayload?, hsplit₂, Option.bind_eq_bind, Option.bind_some, hsplit, hdrop]
  · rintro ⟨front, rest, hmore⟩
    -- the other marker would stand in the text before its first occurrence
    have hstands :
        StandsAt textMarker text (utf8Len (before₁ ++ payloadMarker ++ digits ++ front)) :=
      ⟨_, rest ++ after, by simp [htext, ← hmore], rfl⟩
    have hle := h₂.first _ hstands
    rw [← hbefore, ← hmore] at hle
    simp only [utf8Len_append, hmarker'] at hle
    omega

/-! ### Reading a text with a payload in it -/

/-- A text without spaces and without blanks at its ends. -/
def stripped (text : List Char) : List Char := Text.trim (text.filter (· ≠ ' '))

theorem clean_eq_of_inlinePayload? {payload : List Char}
    (h : inlinePayload? (stripped text) = some payload) : clean text = '0' :: payload := by
  rw [stripped] at h
  simp only [clean, h]

theorem clean_eq_of_inlinePayload?_eq_none (h : inlinePayload? (stripped text) = none) :
    clean text = stripped text := by
  rw [stripped] at h ⊢
  simp only [clean, h]

theorem space_notMem_stripped : ' ' ∉ stripped text := by
  intro h
  have hmem := List.mem_filter.mp (Text.mem_of_mem_trim h)
  exact absurd hmem.2 (by decide)

/-- A text that has neither spaces nor blanks at its ends is stripped. -/
theorem stripped_eq_self (hspace : ' ' ∉ text) (hhead : ∀ c ∈ text.head?, Text.isBlank c = false)
    (hlast : ∀ c ∈ text.getLast?, Text.isBlank c = false) : stripped text = text := by
  have hfilter : text.filter (· ≠ ' ') = text :=
    List.filter_eq_self.mpr fun c hc => decide_eq_true fun hblank => hspace (hblank ▸ hc)
  rw [stripped, hfilter, Text.trim_eq_self hhead hlast]

/-- A payload is not searched for markers again. -/
theorem clean_payload {payload : List Char} (hspace : ' ' ∉ payload)
    (hlast : ∀ c ∈ payload.getLast?, Text.isBlank c = false)
    (hmarker : ¬ textMarker <:+: payload) : clean ('0' :: payload) = '0' :: payload := by
  have hstripped : stripped ('0' :: payload) = '0' :: payload := by
    refine stripped_eq_self ?_ ?_ ?_
    · simpa using hspace
    · rintro c ⟨⟩
      decide
    · cases hpayload : payload.getLast? with
      | none =>
        rw [List.getLast?_eq_none_iff.mp hpayload]
        rintro c ⟨⟩
        decide
      | some last =>
        rw [List.getLast?_cons, hpayload]
        rintro c ⟨⟩
        exact hlast last hpayload
  have hnone : inlinePayload? ('0' :: payload) = none := by
    refine inlinePayload?_eq_none (.inr fun hmem => ?_)
    rcases List.infix_cons_iff.mp hmem with ⟨rest, hprefix⟩ | hmem
    · exact absurd (List.cons_eq_cons.mp hprefix).1 (by decide)
    · exact hmarker hmem
  rw [clean_eq_of_inlinePayload?_eq_none (by rwa [hstripped]), hstripped]

namespace Code

theorem readAs_congr {format : Format} {text text' : List Char} (h : clean text = clean text') :
    readAs format text = readAs format text' := by
  simp only [readAs, h]

theorem read_congr {text text' : List Char} (h : clean text = clean text') :
    read text = read text' := by
  simp only [read, readAs_congr h]

/-- **Payloads within a text.** Where the first of each marker stands in the right order in a
stripped text, and at least four bytes, which do not cut a character, are between them, the text
reads as a zero and the payload do that follows these bytes, if no blank ends the payload. Neither
what is around the markers counts, nor the four bytes. -/
theorem read_of_inline {text payload : List Char} {start₁ start₂ : Nat}
    (h₁ : FirstAt payloadMarker (stripped text) start₁)
    (h₂ : FirstAt textMarker (stripped text) start₂)
    (hpayload : StandsAt payload (stripped text) (start₁ + 10))
    (hend : start₁ + 10 + utf8Len payload = start₂)
    (hlast : ∀ c ∈ payload.getLast?, Text.isBlank c = false) :
    read text = read ('0' :: payload) := by
  obtain ⟨hinline, hmarker⟩ := inlinePayload?_of_firstAt h₁ h₂ hpayload hend
  have hspace : ' ' ∉ payload := by
    obtain ⟨front, after, htext, -⟩ := hpayload
    intro hmem
    have hstripped : ' ' ∈ stripped text := by
      rw [htext]
      simp [hmem]
    exact space_notMem_stripped hstripped
  apply read_congr
  rw [clean_eq_of_inlinePayload? hinline, clean_payload hspace hlast hmarker]

/-- A challenge text with a payload in it, and with blanks in many places. -/
def challengeText : List Char :=
  " Prüfen: CHLG UC 0026 2908881 344731012345678900515,00 CHLGTEXT Überweisung\n".toList

/-- The payload alone is read, whatever is around it. -/
theorem read_of_inline_challengeText :
    FirstAt payloadMarker (stripped challengeText) 8 ∧
      FirstAt textMarker (stripped challengeText) 49 ∧
      StandsAt "2908881344731012345678900515,00".toList (stripped challengeText) 18 ∧
      (∀ c ∈ "2908881344731012345678900515,00".toList.getLast?, Text.isBlank c = false) ∧
      read challengeText = read "02908881344731012345678900515,00".toList := by
  have hsplit₁ : splitAtMarker? payloadMarker (stripped challengeText) =
      some ("Prüfen:".toList,
        "00262908881344731012345678900515,00CHLGTEXTÜberweisung".toList) := by decide +kernel
  have hsplit₂ : splitAtMarker? textMarker (stripped challengeText) =
      some ("Prüfen:CHLGUC00262908881344731012345678900515,00".toList, "Überweisung".toList) := by
    decide +kernel
  have h₁ : FirstAt payloadMarker (stripped challengeText) 8 := firstAt_of_splitAtMarker? hsplit₁
  have h₂ : FirstAt textMarker (stripped challengeText) 49 := firstAt_of_splitAtMarker? hsplit₂
  have hpayload :
      StandsAt "2908881344731012345678900515,00".toList (stripped challengeText) 18 :=
    ⟨"Prüfen:CHLGUC0026".toList, "CHLGTEXTÜberweisung".toList, by decide +kernel,
      by decide +kernel⟩
  have hlast : ∀ c ∈ "2908881344731012345678900515,00".toList.getLast?, Text.isBlank c = false := by
    have hzero : "2908881344731012345678900515,00".toList.getLast? = some '0' := by decide
    rw [hzero]
    rintro c ⟨⟩
    decide
  exact ⟨h₁, h₂, hpayload, hlast, read_of_inline h₁ h₂ hpayload (by decide +kernel) hlast⟩

end Code

end Flicker

end TanDialog

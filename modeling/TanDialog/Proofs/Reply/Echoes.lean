import TanDialog.Proofs.Reply.Series
import TanDialog.Reply.Status

/-!
# What a reply echoes

The entries of a reply whose paths begin with `orig_` repeat the request. Nothing that is read from
a reply depends on them (`PropertySet.withoutEchoes`): the search for a TAN response passes over
them (`PropertySet.find_withoutEchoes`), and return values stand at paths that begin otherwise
(`ReplyStatus.global_ofData_withoutEchoes`, `ReplyStatus.segment_ofData_withoutEchoes`). Echoes do
count among the entries that bound the series of return values, but there is a gap within the
smaller bound already.
-/

namespace TanDialog

namespace PropertySet

/-- The properties that are not echoed from the request. -/
def withoutEchoes (s : PropertySet) : PropertySet :=
  ⟨s.entries.filter (!isEcho ·.1), s.sorted.filter _⟩

theorem get?_withoutEchoes (s : PropertySet) (path : String) :
    s.withoutEchoes.get? path = if isEcho path then none else s.get? path := by
  refine Option.ext fun value => ?_
  rw [Dictionary.get?_eq_some_iff, withoutEchoes, List.mem_filter]
  cases hecho : isEcho path with
  | true => simp
  | false => simp [Dictionary.get?_eq_some_iff]

theorem size_withoutEchoes_le (s : PropertySet) : s.withoutEchoes.size ≤ s.size :=
  List.length_filter_le _ _

/-- Two property sets are the same but for echoes if they agree at all paths that are not
echoed. -/
theorem withoutEchoes_eq_iff {s t : PropertySet} :
    s.withoutEchoes = t.withoutEchoes ↔
      ∀ path, isEcho path = false → s.get? path = t.get? path := by
  constructor
  · intro h path hecho
    have hget := congrArg (·.get? path) h
    simpa [get?_withoutEchoes, hecho] using hget
  · intro h
    refine Dictionary.ext_get? fun path => ?_
    rw [get?_withoutEchoes, get?_withoutEchoes]
    split
    · rfl
    case isFalse hecho => exact h path (by simpa using hecho)

/-- A search passes over echoes, whatever it is for. -/
theorem find_withoutEchoes (s : PropertySet) (query : String) :
    s.withoutEchoes.find query = s.find query := by
  rw [find, find, withoutEchoes, List.filterMap_filter]
  refine congrArg Dictionary.ofList (List.filterMap_congr fun e _ => ?_)
  cases hecho : isEcho e.1 with
  | true => simp [relativePath?, hecho]
  | false => simp

/-! ### Paths that are not echoed -/

/-- No path that begins like this is echoed. -/
def Genuine (header : String) : Prop := ∀ rest, isEcho (header ++ rest) = false

theorem genuine_of_head {header : String} {c : Char} {cs : List Char}
    (h : header.toList = c :: cs) (hc : c ≠ 'o') : Genuine header := by
  intro rest
  have hne : ('o' == c) = false := beq_false_of_ne hc.symm
  rw [isEcho, String.toList_append, h]
  simp [echoMark, List.isPrefixOf, hne]

namespace Genuine

variable {header : String}

theorem append (h : Genuine header) (rest : String) : Genuine (header ++ rest) := by
  intro more
  rw [String.append_assoc]
  exact h _

theorem numbered (h : Genuine header) (i : Nat) : Genuine (Path.numbered header i) := by
  cases i with
  | zero => exact h
  | succ i => exact (h.append "_").append _

theorem get?_eq (h : Genuine header) (s : PropertySet) (rest : String) :
    s.withoutEchoes.get? (header ++ rest) = s.get? (header ++ rest) := by
  rw [get?_withoutEchoes, h rest]
  rfl

/-- A series with a path for each member is read alike with echoes and without. -/
theorem leading_eq {α : Type} (h : Genuine header) (s : PropertySet) (rest : String)
    {f : Nat → Option α} (hf : ∀ i, s.get? (Path.numbered header i ++ rest) = none → f i = none) :
    leading f 0 s.withoutEchoes.size = leading f 0 s.size := by
  obtain ⟨k, hk, hgap⟩ :=
    s.withoutEchoes.exists_gap (Path.injective_numbered_append header rest)
  rw [(h.numbered k).get?_eq s rest] at hgap
  refine leading_congr_limit (k := k) ?_ hk (Nat.le_trans hk s.size_withoutEchoes_le)
  rw [Nat.zero_add]
  exact hf k hgap

end Genuine

end PropertySet

open PropertySet

/-! ### Return values -/

namespace ReturnValue

variable {header : String}

theorem read?_withoutEchoes (h : Genuine header) (s : PropertySet) (segmentRef : Option String) :
    read? s.withoutEchoes header segmentRef = read? s header segmentRef := by
  have hget (i : Nat) : s.withoutEchoes.get? (Path.numbered (header ++ ".parm") i) =
      s.get? (Path.numbered (header ++ ".parm") i) := by
    simpa using ((h.append ".parm").numbered i).get?_eq s ""
  have hparams := (h.append ".parm").leading_eq s ""
    (f := fun i => s.get? (Path.numbered (header ++ ".parm") i))
    fun i hgap => by rwa [String.append_empty] at hgap
  simp only [read?, h.get?_eq, hget, hparams]

theorem readSeries_withoutEchoes (h : Genuine header) (s : PropertySet)
    (segmentRef : Option String) :
    readSeries s.withoutEchoes header segmentRef = readSeries s header segmentRef := by
  simp only [readSeries, read?_withoutEchoes (h.numbered _)]
  refine h.leading_eq s ".code" fun i hcode => ?_
  rw [read?, hcode]
  rfl

end ReturnValue

namespace ReplyStatus

theorem global_ofData_withoutEchoes (s : PropertySet) :
    (ofData s.withoutEchoes).global = (ofData s).global :=
  ReturnValue.readSeries_withoutEchoes (genuine_of_head (c := 'R') rfl (by decide)) s none

theorem segment_ofData_withoutEchoes (s : PropertySet) :
    (ofData s.withoutEchoes).segment = (ofData s).segment := by
  have hsegments : Genuine "RetSeg" := genuine_of_head (c := 'R') rfl (by decide)
  have hblock (i : Nat) : readBlock? s.withoutEchoes i = readBlock? s i := by
    have hheader := hsegments.numbered i
    simp only [readBlock?, hheader.get?_eq,
      ReturnValue.readSeries_withoutEchoes (hheader.append ".RetVal")]
  simp only [ofData, funext hblock]
  refine congrArg List.flatten (hsegments.leading_eq s ".SegHead.ref" fun i href => ?_)
  rw [readBlock?]
  simp only [href, Option.map_none]

end ReplyStatus

end TanDialog

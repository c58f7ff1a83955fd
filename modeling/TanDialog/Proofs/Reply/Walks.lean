import Mathlib.Algebra.BigOperators.Group.List.Basic
import Mathlib.Data.List.Sigma
import Mathlib.Data.Nat.Cast.Basic
import TanDialog.Proofs.Reply.Entries
import TanDialog.Reply.Status

/-!
# The return values that are read from a reply

Whatever a reply holds, its return values are read up to the first gap of each series: the values of
the message up to the first one without a code, the blocks up to the first one without a segment
reference, the values of each block up to the first one without a code, the parameters of each value
up to the first one that is missing (`ReturnValue.StandsAt`, `ReturnValue.SeriesAt`,
`ReplyStatus.BlocksAt`). Nothing else is read (`ReturnValue.readSeries_eq_iff`,
`ReplyStatus.BlocksAt.segment_eq`). Each value and each parameter is an entry of its own
(`ReplyStatus.nodup_allEntries`), so that there are never more of them than entries.
-/

namespace TanDialog

/-! ### Return values and series -/

namespace ReturnValue

variable {data : PropertySet} {header : String} {segmentRef : Option String}

/-- A return value is what a reply tells below a header. -/
structure StandsAt (data : PropertySet) (header : String) (segmentRef : Option String)
    (rv : ReturnValue) : Prop where
  code : data.get? (header ++ ".code") = some rv.code
  text : rv.text = (data.get? (header ++ ".text")).getD ""
  elementRef : rv.elementRef = data.get? (header ++ ".ref")
  segmentRef : rv.segmentRef = segmentRef
  /-- The parameters are those before the first missing one. -/
  params : UpToGap (fun i => data.get? (Path.numbered (header ++ ".parm") i)) rv.params

/-- Return values are the series that a reply tells below a numbered header. -/
structure SeriesAt (data : PropertySet) (header : String) (segmentRef : Option String)
    (values : List ReturnValue) : Prop where
  /-- There are as many as members before the first one without a code. -/
  isLeast : IsLeast {i | data.get? (Path.numbered header i ++ ".code") = none} values.length
  standsAt : ∀ i rv, values[i]? = some rv → StandsAt data (Path.numbered header i) segmentRef rv

theorem upToGap_params (data : PropertySet) (header : String) :
    UpToGap (fun i => data.get? (Path.numbered (header ++ ".parm") i))
      (leading (fun i => data.get? (Path.numbered (header ++ ".parm") i)) 0 data.size) := by
  obtain ⟨k, hk, hgap⟩ := data.exists_gap (Path.numbered_injective (header ++ ".parm"))
  exact upToGap_leading hgap hk

theorem read?_eq_some_iff {rv : ReturnValue} :
    read? data header segmentRef = some rv ↔ StandsAt data header segmentRef rv := by
  rw [read?, Option.map_eq_some_iff]
  constructor
  · rintro ⟨code, hcode, rfl⟩
    exact ⟨hcode, rfl, rfl, rfl, upToGap_params data header⟩
  · intro h
    refine ⟨rv.code, h.code, ?_⟩
    rw [(upToGap_params data header).unique h.params, ← h.text, ← h.elementRef, ← h.segmentRef]

theorem read?_eq_none_iff :
    read? data header segmentRef = none ↔ data.get? (header ++ ".code") = none :=
  Option.map_eq_none_iff

theorem seriesAt_iff {values : List ReturnValue} :
    SeriesAt data header segmentRef values ↔
      UpToGap (fun i => read? data (Path.numbered header i) segmentRef) values := by
  have hgaps : {i | read? data (Path.numbered header i) segmentRef = none} =
      {i | data.get? (Path.numbered header i ++ ".code") = none} :=
    Set.ext fun i => read?_eq_none_iff
  constructor
  · rintro ⟨hleast, hvalues⟩
    refine ⟨hgaps ▸ hleast, fun i hi => ?_⟩
    have hvalue := List.getElem?_eq_getElem hi
    rw [hvalue, read?_eq_some_iff]
    exact hvalues i _ hvalue
  · rintro ⟨hleast, hvalues⟩
    refine ⟨hgaps ▸ hleast, fun i rv hrv => ?_⟩
    rw [← read?_eq_some_iff, hvalues i (List.getElem?_eq_some_iff.mp hrv).1, hrv]

theorem upToGap_readSeries (data : PropertySet) (header : String) (segmentRef : Option String) :
    UpToGap (fun i => read? data (Path.numbered header i) segmentRef)
      (readSeries data header segmentRef) := by
  obtain ⟨k, hk, hgap⟩ := data.exists_gap (Path.injective_numbered_append header ".code")
  exact upToGap_leading (read?_eq_none_iff.mpr hgap) hk

/-- What is read as a series is the series that stands there. -/
theorem readSeries_eq_iff {values : List ReturnValue} :
    readSeries data header segmentRef = values ↔ SeriesAt data header segmentRef values := by
  rw [seriesAt_iff]
  constructor
  · rintro rfl
    exact upToGap_readSeries data header segmentRef
  · exact (upToGap_readSeries data header segmentRef).unique

end ReturnValue

/-! ### Blocks -/

namespace ReplyStatus

open ReturnValue

variable {data : PropertySet}

/-- Blocks, each a segment reference with return values, are those that a reply tells. -/
structure BlocksAt (data : PropertySet) (blocks : List (String × List ReturnValue)) : Prop where
  /-- There are as many as members before the first one without a segment reference. -/
  refs : UpToGap (fun i => data.get? (Path.numbered "RetSeg" i ++ ".SegHead.ref"))
    (blocks.map Prod.fst)
  values : ∀ i segmentRef values, blocks[i]? = some (segmentRef, values) →
    SeriesAt data (Path.numbered "RetSeg" i ++ ".RetVal") (some segmentRef) values

theorem readBlock?_eq_none_iff {i : Nat} :
    readBlock? data i = none ↔
      data.get? (Path.numbered "RetSeg" i ++ ".SegHead.ref") = none :=
  Option.map_eq_none_iff

theorem readBlock?_eq_some_iff {i : Nat} {values : List ReturnValue} :
    readBlock? data i = some values ↔
      ∃ segmentRef, data.get? (Path.numbered "RetSeg" i ++ ".SegHead.ref") = some segmentRef ∧
        SeriesAt data (Path.numbered "RetSeg" i ++ ".RetVal") (some segmentRef) values := by
  simp only [readBlock?, Option.map_eq_some_iff, readSeries_eq_iff]

theorem upToGap_blocks (data : PropertySet) :
    UpToGap (readBlock? data) (leading (readBlock? data) 0 data.size) := by
  obtain ⟨k, hk, hgap⟩ := data.exists_gap (Path.injective_numbered_append "RetSeg" ".SegHead.ref")
  exact upToGap_leading (readBlock?_eq_none_iff.mpr hgap) hk

theorem upToGap_refs (data : PropertySet) :
    UpToGap (fun i => data.get? (Path.numbered "RetSeg" i ++ ".SegHead.ref"))
      (leading (fun i => data.get? (Path.numbered "RetSeg" i ++ ".SegHead.ref")) 0 data.size) := by
  obtain ⟨k, hk, hgap⟩ := data.exists_gap (Path.injective_numbered_append "RetSeg" ".SegHead.ref")
  exact upToGap_leading hgap hk

/-- What is read of segments is what the blocks tell that stand there. -/
theorem BlocksAt.segment_eq {blocks : List (String × List ReturnValue)}
    (h : BlocksAt data blocks) : (ofData data).segment = blocks.flatMap Prod.snd := by
  have hread : UpToGap (readBlock? data) (blocks.map Prod.snd) := by
    rw [upToGap_iff]
    intro i hi
    rw [List.length_map] at hi
    rcases Nat.lt_or_eq_of_le hi with hlt | rfl
    · have hblock := List.getElem?_eq_getElem hlt
      have href := h.refs.eq_getElem? i (by rwa [List.length_map])
      rw [List.getElem?_map, hblock] at href ⊢
      exact readBlock?_eq_some_iff.mpr ⟨_, href, h.values i _ _ hblock⟩
    · have hgap := h.refs.isLeast.1
      rw [List.length_map] at hgap
      rw [List.getElem?_eq_none (Nat.le_of_eq (List.length_map _)), readBlock?_eq_none_iff]
      exact hgap
  rw [ofData, (upToGap_blocks data).unique hread, List.flatMap_def]

theorem exists_blocksAt (data : PropertySet) : ∃ blocks, BlocksAt data blocks := by
  have hrefs := upToGap_refs data
  have hvalues := upToGap_blocks data
  generalize leading _ 0 data.size = refs at hrefs
  generalize leading _ 0 data.size = values at hvalues
  have hlength : refs.length = values.length := by
    refine hrefs.isLeast.unique ?_
    have hgaps : {i | readBlock? data i = none} =
        {i | data.get? (Path.numbered "RetSeg" i ++ ".SegHead.ref") = none} :=
      Set.ext fun i => readBlock?_eq_none_iff
    exact hgaps ▸ hvalues.isLeast
  refine ⟨refs.zip values, ?_, fun i segmentRef series hblock => ?_⟩
  · rwa [List.map_fst_zip (Nat.le_of_eq hlength)]
  · obtain ⟨href, hseries⟩ := List.getElem?_zip_eq_some.mp hblock
    obtain ⟨hi, -⟩ := List.getElem?_eq_some_iff.mp hseries
    obtain ⟨ref, hget, hat⟩ := readBlock?_eq_some_iff.mp ((hvalues.eq_getElem? i hi).trans hseries)
    rw [← hrefs.eq_getElem? i (hlength ▸ hi), hget] at href
    obtain rfl : ref = segmentRef := Option.some.inj href
    exact hat

/-! ### How many there are -/

section

variable {α β : Type} {f : α → Nat → List β}

theorem nodup_flatMap_zipIdx (l : List α) (hnodup : ∀ a i, (f a i).Nodup)
    (hdisjoint : ∀ a b i j, i ≠ j → (f a i).Disjoint (f b j)) :
    (l.zipIdx.flatMap fun x => f x.1 x.2).Nodup := by
  rw [List.nodup_flatMap]
  refine ⟨fun x _ => hnodup x.1 x.2, ?_⟩
  exact (List.pairwise_map.mp (List.nodup_zipIdx_map_snd l)).imp fun hne => hdisjoint _ _ _ _ hne

theorem length_flatMap_zipIdx {g : α → Nat} (l : List α) (h : ∀ a i, (f a i).length = g a) :
    (l.zipIdx.flatMap fun x => f x.1 x.2).length = (l.map g).sum := by
  have hmap : l.zipIdx.map (fun x => (f x.1 x.2).length) = (l.zipIdx.map Prod.fst).map g := by
    simp only [h, List.map_map, Function.comp_def]
  rw [List.length_flatMap, hmap, List.zipIdx_map_fst]

end

/-- The slot that an entry belongs to. -/
def Entry.slot? : Entry → Option Slot
  | value slot _ => some slot
  | segmentRef _ => none

/-- The entries that hold the code and the parameters of a return value. -/
def valueEntries (rv : ReturnValue) (slot : Slot) : List Entry :=
  .value slot .code :: (List.range rv.params.length).map fun i => .value slot (.param i)

/-- Those of a series. -/
def seriesEntries (slotOf : Nat → Slot) (values : List ReturnValue) : List Entry :=
  values.zipIdx.flatMap fun x => valueEntries x.1 (slotOf x.2)

/-- Those of a message and of the series of its blocks. -/
def allEntries (global : List ReturnValue) (series : List (List ReturnValue)) : List Entry :=
  seriesEntries .global global ++
    series.zipIdx.flatMap fun x => seriesEntries (.segment x.2) x.1

theorem slot?_of_mem_valueEntries {rv : ReturnValue} {slot : Slot} {e : Entry}
    (h : e ∈ valueEntries rv slot) : e.slot? = some slot := by
  rcases List.mem_cons.mp h with rfl | h
  · rfl
  · obtain ⟨i, -, rfl⟩ := List.mem_map.mp h
    rfl

theorem slot?_of_mem_seriesEntries {slotOf : Nat → Slot} {values : List ReturnValue} {e : Entry}
    (h : e ∈ seriesEntries slotOf values) : ∃ i, e.slot? = some (slotOf i) := by
  obtain ⟨x, -, he⟩ := List.mem_flatMap.mp h
  exact ⟨x.2, slot?_of_mem_valueEntries he⟩

theorem nodup_valueEntries (rv : ReturnValue) (slot : Slot) : (valueEntries rv slot).Nodup := by
  refine List.nodup_cons.mpr ⟨by simp, List.nodup_range.map fun i j h => ?_⟩
  simpa using h

theorem nodup_seriesEntries {slotOf : Nat → Slot} (hslot : Function.Injective slotOf)
    (values : List ReturnValue) : (seriesEntries slotOf values).Nodup := by
  refine nodup_flatMap_zipIdx values (fun rv i => nodup_valueEntries rv (slotOf i)) ?_
  intro rv rv' i j hne e he he'
  have hslots := (slot?_of_mem_valueEntries he).symm.trans (slot?_of_mem_valueEntries he')
  exact hne (hslot (Option.some.inj hslots))

theorem nodup_allEntries (global : List ReturnValue) (series : List (List ReturnValue)) :
    (allEntries global series).Nodup := by
  have hblocks : (series.zipIdx.flatMap fun x => seriesEntries (.segment x.2) x.1).Nodup := by
    refine nodup_flatMap_zipIdx (f := fun values i => seriesEntries (.segment i) values) series
      (fun values i => nodup_seriesEntries (fun _ _ h => (Slot.segment.inj h).2) values) ?_
    intro values values' i j hne e he he'
    obtain ⟨k, hk⟩ := slot?_of_mem_seriesEntries he
    obtain ⟨l, hl⟩ := slot?_of_mem_seriesEntries he'
    exact hne (Slot.segment.inj (Option.some.inj (hk.symm.trans hl))).1
  refine (nodup_seriesEntries (fun _ _ => Slot.global.inj) global).append hblocks ?_
  intro e he he'
  obtain ⟨k, hk⟩ := slot?_of_mem_seriesEntries he
  obtain ⟨x, -, hx⟩ := List.mem_flatMap.mp he'
  obtain ⟨l, hl⟩ := slot?_of_mem_seriesEntries hx
  exact absurd (hk.symm.trans hl) (by simp)

/-- A return value takes one entry for its code and one for each of its parameters. -/
theorem length_allEntries (global : List ReturnValue) (series : List (List ReturnValue)) :
    (allEntries global series).length = (global ++ series.flatten).length +
      ((global ++ series.flatten).map fun rv => rv.params.length).sum := by
  have hseries (slotOf : Nat → Slot) (values : List ReturnValue) :
      (seriesEntries slotOf values).length = (values.map fun rv => rv.params.length + 1).sum :=
    length_flatMap_zipIdx (f := fun rv i => valueEntries rv (slotOf i)) values
      fun rv i => by simp [valueEntries]
  have hblocks := length_flatMap_zipIdx (f := fun values i => seriesEntries (.segment i) values)
    series fun values i => hseries (.segment i) values
  have hall : (allEntries global series).length =
      ((global ++ series.flatten).map fun rv => rv.params.length + 1).sum := by
    rw [allEntries, List.length_append, hseries, hblocks]
    simp [List.map_flatten, List.sum_flatten, Function.comp_def]
  rw [hall]
  generalize global ++ series.flatten = values
  rw [List.sum_map_add, Nat.add_comm]
  simp

/-- Each of these entries has a value in the reply. -/
theorem get?_of_mem_valueEntries {slot : Slot} {segmentRef : Option String} {rv : ReturnValue}
    (h : StandsAt data slot.header segmentRef rv) {e : Entry} (he : e ∈ valueEntries rv slot) :
    data.get? e.path ≠ none := by
  rcases List.mem_cons.mp he with rfl | he
  · rw [Entry.path, Field.path, h.code]
    exact Option.some_ne_none _
  · obtain ⟨i, hi, rfl⟩ := List.mem_map.mp he
    have hi : i < rv.params.length := List.mem_range.mp hi
    rw [Entry.path, Field.path, h.params.eq_getElem? i hi, List.getElem?_eq_getElem hi]
    exact Option.some_ne_none _

theorem get?_of_mem_seriesEntries {header : String} {segmentRef : Option String}
    {values : List ReturnValue} (h : SeriesAt data header segmentRef values) {slotOf : Nat → Slot}
    (hslot : ∀ i, (slotOf i).header = Path.numbered header i) {e : Entry}
    (he : e ∈ seriesEntries slotOf values) : data.get? e.path ≠ none := by
  obtain ⟨⟨rv, i⟩, hrv, he⟩ := List.mem_flatMap.mp he
  have hstands := h.standsAt i rv (List.mem_zipIdx_iff_getElem?.mp hrv)
  exact get?_of_mem_valueEntries (hslot i ▸ hstands) he

/-- There are never more return values and parameters than entries. -/
theorem length_all_le_size (data : PropertySet) :
    (ofData data).all.length + ((ofData data).all.map fun rv => rv.params.length).sum ≤
      data.size := by
  obtain ⟨blocks, hblocks⟩ := exists_blocksAt data
  have hglobal : SeriesAt data "RetGlob.RetVal" none (ofData data).global :=
    readSeries_eq_iff.mp rfl
  have hall : (ofData data).all = (ofData data).global ++ (blocks.map Prod.snd).flatten := by
    rw [all, hblocks.segment_eq, List.flatMap_def]
  have hvalues : ∀ path ∈ (allEntries (ofData data).global (blocks.map Prod.snd)).map Entry.path,
      data.get? path ≠ none := by
    intro path hpath
    obtain ⟨e, he, rfl⟩ := List.mem_map.mp hpath
    rcases List.mem_append.mp he with he | he
    · exact get?_of_mem_seriesEntries hglobal (fun _ => rfl) he
    · obtain ⟨⟨values, i⟩, hvalues, he⟩ := List.mem_flatMap.mp he
      have hblock := List.mem_zipIdx_iff_getElem?.mp hvalues
      rw [List.getElem?_map, Option.map_eq_some_iff] at hblock
      obtain ⟨⟨segmentRef, _⟩, hblock, rfl⟩ := hblock
      exact get?_of_mem_seriesEntries (hblocks.values i _ _ hblock) (fun _ => rfl) he
  have hlength := data.length_le_size
    ((nodup_allEntries (ofData data).global (blocks.map Prod.snd)).map Entry.path_injective) hvalues
  rwa [List.length_map, length_allEntries, ← hall] at hlength

/-- Reading a reply comes to an end whatever it holds, at the first gap of each series: the values
of the message before the first one without a code, and those of the blocks before the first block
without a segment reference, in each block before the first one without a code. The values and
parameters that are read are not more than the entries of the reply. -/
theorem read_up_to_first_gaps (data : PropertySet) :
    SeriesAt data "RetGlob.RetVal" none (ofData data).global ∧
      (∃ blocks, BlocksAt data blocks ∧ (ofData data).segment = blocks.flatMap Prod.snd) ∧
      (ofData data).all.length + ((ofData data).all.map fun rv => rv.params.length).sum ≤
        data.size := by
  obtain ⟨blocks, hblocks⟩ := exists_blocksAt data
  exact ⟨readSeries_eq_iff.mp rfl, ⟨blocks, hblocks, hblocks.segment_eq⟩, length_all_le_size data⟩

/-- A value behind a gap is not read, and neither is a parameter; an empty block is passed over, and
a value without a block does not count. -/
example :
    let status := ofData <| .ofList
      [("RetGlob.RetVal.code", "0010"), ("RetGlob.RetVal_3.code", "9050"),
        ("RetSeg.SegHead.ref", "3"), ("RetSeg_2.SegHead.ref", "4"),
        ("RetSeg_2.RetVal.code", "3920"), ("RetSeg_2.RetVal.parm", "901"),
        ("RetSeg_2.RetVal.parm_3", "920"), ("RetSeg_3.RetVal.code", "9942")]
    status.all.map (fun rv => (rv.code, rv.params)) = [("0010", []), ("3920", ["901"])] := by
  decide +kernel

end ReplyStatus

end TanDialog

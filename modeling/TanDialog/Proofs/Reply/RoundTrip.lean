import TanDialog.Proofs.Reply.Walks

/-!
# Return values read back

Return values are written into a property set as a bank sends them (`ReplyStatus.replyFields`):
series of notices for the whole message and for each block, with numbered paths throughout. They are
read back as they were written and in order, because every entry is found with what was written
for it, and nothing is found where nothing was written (`ReplyStatus.get?_replyFields`). So each
series that is read ends where its list does (`ReplyStatus.seriesAt_within`,
`ReplyStatus.blocksAt_within`).
-/

namespace TanDialog

theorem Severity.ofCode_head (code : String) :
    (Severity.ofCode code = .error ↔ code.toList.head? = some '9') ∧
      (Severity.ofCode code = .warning ↔ code.toList.head? = some '3') := by
  rw [Severity.ofCode, List.head?_eq_some_iff, List.head?_eq_some_iff]
  split <;> simp_all

namespace ReplyStatus

open ReturnValue

/-! ### Writing -/

/-- A return value as it is sent, wherever it stands. -/
structure Notice where
  code : String
  text : String
  params : List String
  elementRef : Option String
deriving DecidableEq

namespace Notice

/-- The return value that it is to those who know the segment. -/
def within (n : Notice) (segmentRef : Option String) : ReturnValue :=
  { code := n.code, text := n.text, params := n.params, elementRef := n.elementRef, segmentRef }

/-- The fields of a notice below a header. -/
def fields (n : Notice) (header : String) : List (String × String) :=
  [(header ++ ".code", n.code), (header ++ ".text", n.text)] ++
    (n.elementRef.toList.map fun ref => (header ++ ".ref", ref)) ++
    n.params.zipIdx.map fun x => (Path.numbered (header ++ ".parm") x.2, x.1)

end Notice

/-- Notices about one segment of the request. -/
structure Block where
  segmentRef : String
  notices : List Notice
deriving DecidableEq

/-- The fields of a series of notices. -/
def seriesFields (header : String) (notices : List Notice) : List (String × String) :=
  notices.zipIdx.flatMap fun x => x.1.fields (Path.numbered header x.2)

/-- The fields of the block with the given index. -/
def Block.fields (b : Block) (index : Nat) : List (String × String) :=
  (Path.numbered "RetSeg" index ++ ".SegHead.ref", b.segmentRef) ::
    seriesFields (Path.numbered "RetSeg" index ++ ".RetVal") b.notices

/-- The fields of the notices about the message and of its blocks. -/
def replyFields (global : List Notice) (blocks : List Block) : List (String × String) :=
  seriesFields "RetGlob.RetVal" global ++ blocks.zipIdx.flatMap fun x => x.1.fields x.2

/-! ### What is written for each entry -/

/-- What a notice tells in a field. -/
def Notice.field? (n : Notice) : Field → Option String
  | .code => some n.code
  | .text => some n.text
  | .elementRef => n.elementRef
  | .param i => n.params[i]?

section

variable (global : List Notice) (blocks : List Block)

/-- The notice in a slot. -/
def noticeAt? : Slot → Option Notice
  | .global i => global[i]?
  | .segment block i => blocks[block]?.bind (·.notices[i]?)

/-- What is written for an entry. -/
def content? : Entry → Option String
  | .value slot field => (noticeAt? global blocks slot).bind (·.field? field)
  | .segmentRef block => blocks[block]?.map (·.segmentRef)

end

variable {global : List Notice} {blocks : List Block}

theorem Notice.mem_fields {n : Notice} {header : String} {f : String × String} :
    f ∈ n.fields header ↔ ∃ field, n.field? field = some f.2 ∧ f.1 = Field.path header field := by
  obtain ⟨path, value⟩ := f
  constructor
  · intro h
    simp only [fields, List.mem_append, List.mem_cons, List.not_mem_nil, or_false, Prod.mk.injEq,
      List.mem_map, Option.mem_toList] at h
    rcases h with ((⟨rfl, rfl⟩ | ⟨rfl, rfl⟩) | ⟨ref, href, rfl, rfl⟩) | ⟨x, hx, rfl, rfl⟩
    · exact ⟨.code, rfl, rfl⟩
    · exact ⟨.text, rfl, rfl⟩
    · exact ⟨.elementRef, href, rfl⟩
    · exact ⟨.param x.2, List.mem_zipIdx_iff_getElem?.mp hx, rfl⟩
  · rintro ⟨field, hvalue, hpath⟩
    simp only at hvalue hpath
    subst hpath
    cases field with
    | code => simp [fields, Field.path, Option.some.inj hvalue]
    | text => simp [fields, Field.path, Option.some.inj hvalue]
    | elementRef =>
      have href : n.elementRef = some value := hvalue
      simp [fields, Field.path, href]
    | param i =>
      refine List.mem_append_right _ (List.mem_map.mpr ⟨(value, i), ?_, rfl⟩)
      exact List.mem_zipIdx_iff_getElem?.mpr hvalue

theorem mem_seriesFields {header : String} {notices : List Notice} {f : String × String} :
    f ∈ seriesFields header notices ↔
      ∃ i n, notices[i]? = some n ∧ f ∈ Notice.fields n (Path.numbered header i) := by
  simp only [seriesFields, List.mem_flatMap, Prod.exists, List.mem_zipIdx_iff_getElem?]
  exact exists_comm

theorem Block.mem_fields {b : Block} {index : Nat} {f : String × String} :
    f ∈ b.fields index ↔ f = (Path.numbered "RetSeg" index ++ ".SegHead.ref", b.segmentRef) ∨
      f ∈ seriesFields (Path.numbered "RetSeg" index ++ ".RetVal") b.notices :=
  List.mem_cons

/-- What is written are the contents of the entries, under their paths. -/
theorem mem_replyFields {f : String × String} :
    f ∈ replyFields global blocks ↔ ∃ e, content? global blocks e = some f.2 ∧ f.1 = e.path := by
  simp only [replyFields, List.mem_append, List.mem_flatMap, Prod.exists,
    List.mem_zipIdx_iff_getElem?, Block.mem_fields, mem_seriesFields, Notice.mem_fields]
  constructor
  · rintro (⟨i, n, hn, field, hvalue, hpath⟩ |
      ⟨b, index, hb, rfl | ⟨i, n, hn, field, hvalue, hpath⟩⟩)
    · exact ⟨.value (.global i) field, by simpa [content?, noticeAt?, hn] using hvalue, hpath⟩
    · exact ⟨.segmentRef index, by simp [content?, hb], rfl⟩
    · refine ⟨.value (.segment index i) field, ?_, hpath⟩
      simpa [content?, noticeAt?, hb, hn] using hvalue
  · rintro ⟨e, hvalue, hpath⟩
    cases e with
    | segmentRef index =>
      obtain ⟨b, hb, href⟩ := Option.map_eq_some_iff.mp hvalue
      exact .inr ⟨b, index, hb, .inl (Prod.ext hpath href.symm)⟩
    | value slot field =>
      obtain ⟨n, hn, hfield⟩ := Option.bind_eq_some_iff.mp hvalue
      cases slot with
      | global i => exact .inl ⟨i, n, hn, field, hfield, hpath⟩
      | segment index i =>
        obtain ⟨b, hb, hnotice⟩ := Option.bind_eq_some_iff.mp hn
        exact .inr ⟨b, index, hb, .inr ⟨i, n, hnotice, field, hfield, hpath⟩⟩

/-! ### Reading what was written -/

/-- A path that may belong to a return value. -/
def isReserved (path : String) : Bool :=
  "RetGlob".toList.isPrefixOf path.toList || "RetSeg".toList.isPrefixOf path.toList

theorem prefix_path_of_prefix_header {header : String} {first : List Char}
    (h : first <+: header.toList) (field : Field) : first <+: (field.path header).toList := by
  rw [Field.path_eq, String.append_assoc, String.toList_append]
  exact h.trans (List.prefix_append _ _)

theorem isReserved_path (e : Entry) : isReserved e.path := by
  rw [isReserved, Bool.or_eq_true, List.isPrefixOf_iff_prefix, List.isPrefixOf_iff_prefix]
  rcases e with ⟨i | ⟨block, i⟩, field⟩ | block
  · refine .inl (prefix_path_of_prefix_header ?_ field)
    have hbase : "RetGlob".toList <+: "RetGlob.RetVal".toList := by decide
    exact hbase.trans (Path.prefix_numbered _ i)
  · refine .inr (prefix_path_of_prefix_header ?_ field)
    refine List.IsPrefix.trans ?_ (Path.prefix_numbered _ i)
    rw [String.toList_append]
    exact (Path.prefix_numbered "RetSeg" block).trans (List.prefix_append _ _)
  · rw [Entry.path, String.toList_append]
    exact .inr ((Path.prefix_numbered "RetSeg" block).trans (List.prefix_append _ _))

variable {s : PropertySet}

/-- Every entry is found with its content. -/
theorem get?_replyFields
    (hs : ∀ e ∈ s.entries, isReserved e.1 → e.1 ∈ (replyFields global blocks).map Prod.fst)
    (e : Entry) :
    (s.insertAll (replyFields global blocks)).get? e.path = content? global blocks e := by
  cases hcontent : content? global blocks e with
  | some value =>
    refine s.get?_insertAll_of_mem (mem_replyFields.mpr ⟨e, hcontent, rfl⟩) fun v hv => ?_
    obtain ⟨e', he', hpath⟩ := mem_replyFields.mp hv
    rw [← Entry.path_injective hpath, hcontent] at he'
    exact (Option.some.inj he').symm
  | none =>
    have hpath : e.path ∉ (replyFields global blocks).map Prod.fst := by
      intro hmem
      obtain ⟨f, hf, hpath⟩ := List.mem_map.mp hmem
      obtain ⟨e', he', hpath'⟩ := mem_replyFields.mp hf
      rw [← Entry.path_injective (hpath.symm.trans hpath'), hcontent] at he'
      cases he'
    rw [s.get?_insertAll_of_forall_ne fun f hf heq => hpath (List.mem_map.mpr ⟨f, hf, heq⟩)]
    by_contra hsome
    obtain ⟨value, hvalue⟩ := Option.ne_none_iff_exists'.mp hsome
    exact hpath (hs _ (Dictionary.get?_eq_some_iff.mp hvalue) (isReserved_path e))

section

variable {d : PropertySet} (hd : ∀ e : Entry, d.get? e.path = content? global blocks e)

include hd

theorem standsAt_within {slot : Slot} {n : Notice} (hn : noticeAt? global blocks slot = some n)
    (segmentRef : Option String) : StandsAt d slot.header segmentRef (n.within segmentRef) := by
  have hfield (field : Field) : d.get? (field.path slot.header) = n.field? field := by
    have hget : d.get? (field.path slot.header) = _ := hd (.value slot field)
    rw [hget, content?, hn, Option.bind_some]
  refine ⟨hfield .code, ?_, (hfield .elementRef).symm, rfl, ?_⟩
  · rw [show d.get? (slot.header ++ ".text") = some n.text from hfield .text]
    rfl
  · rw [upToGap_iff]
    exact fun i _ => hfield (.param i)

theorem seriesAt_within {header : String} {notices : List Notice} (slotOf : Nat → Slot)
    (hheader : ∀ i, (slotOf i).header = Path.numbered header i)
    (hnotices : ∀ i, noticeAt? global blocks (slotOf i) = notices[i]?)
    (segmentRef : Option String) :
    SeriesAt d header segmentRef (notices.map (·.within segmentRef)) := by
  have hcode : UpToGap (fun i => d.get? (Path.numbered header i ++ ".code"))
      (notices.map (·.code)) := by
    rw [upToGap_iff]
    intro i _
    have hget := hd (.value (slotOf i) .code)
    rw [Entry.path, Field.path, hheader] at hget
    rw [hget, content?, hnotices, List.getElem?_map]
    cases notices[i]? <;> rfl
  refine ⟨?_, fun i rv hrv => ?_⟩
  · have hleast := hcode.isLeast
    rwa [List.length_map] at hleast ⊢
  · rw [List.getElem?_map, Option.map_eq_some_iff] at hrv
    obtain ⟨n, hn, rfl⟩ := hrv
    rw [← hheader]
    exact standsAt_within hd ((hnotices i).trans hn) segmentRef

theorem blocksAt_within :
    BlocksAt d
      (blocks.map fun b => (b.segmentRef, b.notices.map (·.within (some b.segmentRef)))) := by
  refine ⟨?_, fun i segmentRef values hblock => ?_⟩
  · rw [upToGap_iff]
    intro i _
    have hget := hd (.segmentRef i)
    rw [Entry.path] at hget
    rw [hget, content?, List.map_map, List.getElem?_map]
    rfl
  · rw [List.getElem?_map, Option.map_eq_some_iff] at hblock
    obtain ⟨b, hb, hpair⟩ := hblock
    obtain ⟨rfl, rfl⟩ := Prod.mk.inj hpair
    exact seriesAt_within hd (.segment i) (fun _ => rfl) (fun j => by simp [noticeAt?, hb]) _

end

/-- What is written is read back: the notices about the message and those of the blocks, all in
order, each with its code, text, parameters and element, those of a block with its segment. The
first character of the code tells the severity. What else the property set holds does not matter, as
long as no other path of it begins like those of return values. -/
theorem ofData_replyFields (global : List Notice) (blocks : List Block) (s : PropertySet)
    (hs : ∀ e ∈ s.entries, isReserved e.1 → e.1 ∈ (replyFields global blocks).map Prod.fst) :
    let status := ofData (s.insertAll (replyFields global blocks))
    status.global = global.map (·.within none) ∧
      status.segment =
        blocks.flatMap (fun b => b.notices.map (·.within (some b.segmentRef))) ∧
      ∀ rv ∈ status.all,
        (rv.severity = .error ↔ rv.code.toList.head? = some '9') ∧
        (rv.severity = .warning ↔ rv.code.toList.head? = some '3') := by
  have hd := get?_replyFields hs
  refine ⟨?_, ?_, fun rv _ => Severity.ofCode_head rv.code⟩
  · exact readSeries_eq_iff.mpr (seriesAt_within hd .global (fun _ => rfl) (fun _ => rfl) none)
  · rw [(blocksAt_within hd).segment_eq, List.flatMap_map]

/-- Notices about a message that was taken in only in part. -/
def mixedNotices : List Notice :=
  [⟨"3060", "Bitte beachten Sie die enthaltenen Warnungen.", [], none⟩,
    ⟨"9050", "Die Nachricht enthaelt Fehler.", [], none⟩]

/-- Notices about its segments, of which one has none. -/
def mixedBlocks : List Block :=
  [⟨"3", [⟨"3920", "Zugelassene TAN-Verfahren", ["901", "920"], none⟩,
      ⟨"9942", "PIN falsch", [], some "4"⟩]⟩,
    ⟨"4", []⟩,
    ⟨"5", [⟨"0020", "", [], none⟩]⟩]

/-- A property set in which the code of an earlier reply still stands. -/
def earlierReply : PropertySet :=
  .ofList [("MsgHead.dialogid", "4711"), ("RetGlob.RetVal.code", "0010")]

theorem ofData_replyFields_mixed :
    (∀ e ∈ earlierReply.entries, isReserved e.1 →
      e.1 ∈ (replyFields mixedNotices mixedBlocks).map Prod.fst) ∧
    let status := ofData (earlierReply.insertAll (replyFields mixedNotices mixedBlocks))
    status.global.map (·.code) = ["3060", "9050"] ∧
    status.segment.map (fun rv => (rv.segmentRef, rv.code, rv.params, rv.elementRef)) =
      [(some "3", "3920", ["901", "920"], none), (some "3", "9942", [], some "4"),
        (some "5", "0020", [], none)] ∧
    ∀ rv ∈ status.all, rv.severity = .error ↔ rv.code.toList.head? = some '9' := by
  have hreserved : ∀ e ∈ earlierReply.entries, isReserved e.1 →
      e.1 ∈ (replyFields mixedNotices mixedBlocks).map Prod.fst := by
    decide +kernel
  obtain ⟨hglobal, hsegment, hseverity⟩ :=
    ofData_replyFields mixedNotices mixedBlocks earlierReply hreserved
  refine ⟨hreserved, ?_, ?_, fun rv hrv => (hseverity rv hrv).1⟩
  · rw [hglobal]
    rfl
  · rw [hsegment]
    rfl

end ReplyStatus

end TanDialog

import DbClient.Node.Selector
import DbClient.Proofs.Enumerated
import DbClient.Proofs.Fault
import DbClient.Proofs.Json.Unambiguous
import DbClient.Proofs.Occurrences

/-! Selectors. Making a selector leaves out repeated protocols and blank tags, and what it accepts
depends on the members of the two lists alone; a selector that only blank tags are asked of
accepts every tag. The document of a selector is read back as it is. Main statement:
`of_keeps_acceptance`. -/

namespace DbClient

open Text

namespace TagSet

/-- A set has the tags among its keys. -/
theorem contains_iff {tags : TagSet} {tag : String} :
    tags.contains tag = true ↔ tag ∈ tags.keys := by
  rw [SortedMap.contains, Option.isSome_iff_exists, SortedMap.keys, List.mem_map]
  constructor
  · rintro ⟨⟨⟩, hGet⟩
    exact ⟨(tag, ()), SortedMap.mem_entries_iff.mpr hGet, rfl⟩
  · rintro ⟨⟨_, _⟩, hEntry, rfl⟩
    exact ⟨_, SortedMap.mem_entries_iff.mp hEntry⟩

theorem isEmpty_iff {tags : TagSet} : tags.isEmpty = true ↔ tags.keys = [] := by
  rw [SortedMap.isEmpty, List.isEmpty_iff, SortedMap.keys, List.map_eq_nil_iff]

theorem eq_empty_of_isEmpty {tags : TagSet} (h : tags.isEmpty = true) : tags = .empty := by
  obtain ⟨entries, hIncreasing⟩ := tags
  obtain rfl : entries = [] := List.isEmpty_iff.mp h
  rfl

/-- A set has the members of the list that it was made of. -/
theorem mem_keys_ofList {tags : List String} {tag : String} :
    tag ∈ (ofList tags).keys ↔ tag ∈ tags := by
  rw [← contains_iff, SortedMap.contains, Option.isSome_iff_exists]
  constructor
  · rintro ⟨⟨⟩, hGet⟩
    simpa using SortedMap.mem_of_get?_ofList hGet
  · intro hTag
    exact SortedMap.exists_get?_ofList (List.mem_map.mpr ⟨tag, hTag, rfl⟩)

theorem ofList_keys (tags : TagSet) : ofList tags.keys = tags := by
  apply SortedMap.ofList_eq_of_mem_iff
  rintro tag ⟨⟩
  rw [← SortedMap.mem_entries_iff, SortedMap.keys, List.map_map]
  simp [Function.comp_def]

end TagSet

namespace NodeSelector

/-- Each protocol is kept where it occurs first. -/
theorem distinct_eq_eraseDups (protocols : List Protocol) :
    distinct protocols = protocols.eraseDups := by
  induction protocols using List.reverseRecOn with
  | nil => rfl
  | append_singleton protocols protocol ih =>
      rw [distinct] at ih
      rw [eraseDups_append_singleton, distinct, List.foldl_append, ih]
      simp

/-! ### Selectors that are made of preferences -/

/-- A selector has each protocol that it is made of, where it occurs first. -/
theorem isFirstOccurrences_of (protocols : List Protocol) (tags : List String) :
    IsFirstOccurrences protocols (of protocols tags).protocols :=
  isFirstOccurrences_iff.mpr (distinct_eq_eraseDups protocols)

theorem mem_tags_of {protocols : List Protocol} {tags : List String} {tag : String} :
    tag ∈ (of protocols tags).tags.keys ↔ tag ∈ tags ∧ isBlankText tag = false := by
  rw [of, TagSet.mem_keys_ofList]
  simp

/-- A selector without repetitions and blank tags is the one that its preferences make. -/
theorem of_eq_self {selector : NodeSelector} (hProtocols : selector.protocols.Nodup)
    (hTags : ∀ tag ∈ selector.tags.keys, isBlankText tag = false) :
    of selector.protocols selector.tags.keys = selector := by
  have hKept : selector.tags.keys.filter (fun tag => !isBlankText tag) = selector.tags.keys :=
    List.filter_eq_self.mpr fun tag hTag => by simp [hTags tag hTag]
  rw [of, distinct_eq_eraseDups, eraseDups_of_nodup hProtocols, hKept, TagSet.ofList_keys]

theorem of_of (protocols : List Protocol) (tags : List String) :
    of (of protocols tags).protocols (of protocols tags).tags.keys = of protocols tags :=
  of_eq_self (isFirstOccurrences_of protocols tags).nodup fun _ hTag => (mem_tags_of.mp hTag).2

/-! ### Acceptance -/

/-- A selector without protocols accepts all of them, as does one with the protocol that stands for
any. -/
theorem acceptsProtocol_iff {selector : NodeSelector} {protocol : Protocol} :
    selector.acceptsProtocol protocol = true ↔ selector.protocols = [] ∨ protocol = .any ∨
      .any ∈ selector.protocols ∨ protocol ∈ selector.protocols := by
  simp [acceptsProtocol, or_assoc, and_or_left, exists_or]

/-- A selector without tags accepts all nodes, and others those that carry one of its tags. -/
theorem acceptsTags_iff {selector : NodeSelector} {carried : List String} :
    selector.acceptsTags carried = true ↔
      selector.tags.keys = [] ∨ ∃ tag ∈ carried, tag ∈ selector.tags.keys := by
  simp [acceptsTags, TagSet.isEmpty_iff, TagSet.contains_iff]

/-- Which protocols are accepted can be told from what the selector is made of. -/
theorem of_acceptsProtocol_iff {protocols : List Protocol} {tags : List String}
    {protocol : Protocol} :
    (of protocols tags).acceptsProtocol protocol = true ↔
      protocols = [] ∨ protocol = .any ∨ .any ∈ protocols ∨ protocol ∈ protocols := by
  have hMem := (isFirstOccurrences_of protocols tags).mem_iff
  have hNone : (of protocols tags).protocols = [] ↔ protocols = [] := by
    simp only [List.eq_nil_iff_forall_not_mem, hMem]
  rw [acceptsProtocol_iff, hNone, hMem, hMem]

/-- Which tags are accepted can be told from what the selector is made of. -/
theorem of_acceptsTags_iff {protocols : List Protocol} {tags carried : List String} :
    (of protocols tags).acceptsTags carried = true ↔
      (∀ tag ∈ tags, isBlankText tag = true) ∨
        ∃ tag ∈ carried, tag ∈ tags ∧ isBlankText tag = false := by
  have hNone : (of protocols tags).tags.keys = [] ↔ ∀ tag ∈ tags, isBlankText tag = true := by
    simp only [List.eq_nil_iff_forall_not_mem, mem_tags_of, not_and, Bool.not_eq_false]
  simp only [acceptsTags_iff, hNone, mem_tags_of]

/-- Neither the order nor the repetition of preferences and tags changes what is accepted. -/
theorem of_accepts_congr {protocols protocols' : List Protocol} {tags tags' : List String}
    (hProtocols : ∀ protocol, protocol ∈ protocols' ↔ protocol ∈ protocols)
    (hTags : ∀ tag, tag ∈ tags' ↔ tag ∈ tags) :
    (∀ protocol, (of protocols' tags').acceptsProtocol protocol =
      (of protocols tags).acceptsProtocol protocol) ∧
    ∀ carried carried' : List String, (∀ tag, tag ∈ carried' ↔ tag ∈ carried) →
      (of protocols' tags').acceptsTags carried' = (of protocols tags).acceptsTags carried := by
  have hNone : protocols' = [] ↔ protocols = [] := by
    simp only [List.eq_nil_iff_forall_not_mem, hProtocols]
  constructor
  · intro protocol
    rw [Bool.eq_iff_iff, of_acceptsProtocol_iff, of_acceptsProtocol_iff, hNone, hProtocols,
      hProtocols]
  · intro carried carried' hCarried
    rw [Bool.eq_iff_iff, of_acceptsTags_iff, of_acceptsTags_iff]
    simp only [hTags, hCarried]

/-! ### Documents -/

theorem readProtocols?_written (protocols : List Protocol) :
    readProtocols? (.array (protocols.map fun protocol => .string (Enumerated.name protocol))) =
      some protocols :=
  mapM_map_eq_pure fun protocol _ => Enumerated.ofName?_name protocol

/-- Tags are read back from their document. -/
theorem readTags?_written (tags : TagSet) :
    readTags? (.array (tags.keys.map .string)) = some tags := by
  have hRead : (tags.keys.map Json.string).mapM
      (fun item => (Decoder.string item).toOption) = pure tags.keys :=
    mapM_map_eq_pure fun _ _ => rfl
  rw [readTags?, hRead]
  exact congrArg some (TagSet.ofList_keys tags)

/-- The document of a selector is read as this selector. A preference that is left out was
empty. -/
theorem ofJson?_toJson (selector : NodeSelector) : ofJson? selector.toJson = some selector := by
  obtain ⟨protocols, tags⟩ := selector
  by_cases hProtocols : protocols.isEmpty = true <;> by_cases hTags : tags.isEmpty = true
  · obtain rfl := List.isEmpty_iff.mp hProtocols
    obtain rfl := TagSet.eq_empty_of_isEmpty hTags
    rfl
  · obtain rfl := List.isEmpty_iff.mp hProtocols
    simp [toJson, hTags, ofJson?, List.lookup_cons, readFields?, readTags?_written]
  · obtain rfl := TagSet.eq_empty_of_isEmpty hTags
    simp [toJson, hProtocols, hTags, ofJson?, List.lookup_cons, readFields?, readProtocols?_written]
  · simp [toJson, hProtocols, hTags, ofJson?, List.lookup_cons, readFields?, readProtocols?_written,
      readTags?_written]

/-- The document of a selector has no numbers. -/
theorem isTextual_toJson (selector : NodeSelector) : selector.toJson.IsTextual := by
  have hStrings {α : Type} (items : List α) (text : α → String) :
      (Json.array (items.map fun item => .string (text item))).IsTextual := by
    apply Json.IsTextual.array
    intro item hItem
    obtain ⟨value, -, rfl⟩ := List.mem_map.mp hItem
    exact .string (text value)
  apply Json.IsTextual.object
  intro member hMember
  rcases List.mem_append.mp hMember with hProtocols | hTags
  · obtain ⟨-, rfl⟩ : selector.protocols ≠ [] ∧ member = _ := by simpa using hProtocols
    exact hStrings selector.protocols Enumerated.name
  · obtain ⟨-, rfl⟩ : selector.tags.isEmpty = false ∧ member = _ := by simpa using hTags
    exact hStrings selector.tags.keys id

/-- A selector is determined by its text. -/
theorem eq_of_toText_eq {first second : NodeSelector}
    (h : first.toJson.toText = second.toJson.toText) : first = second := by
  have hDocument := (isTextual_toJson first).eq_of_toText_eq (isTextual_toJson second) h
  have hRead := ofJson?_toJson first
  rw [hDocument, ofJson?_toJson] at hRead
  exact (Option.some.inj hRead).symm

/-- A selector has the preferred protocols in the order of first occurrence and the tags that are
not blank, and is made again of what it has. It accepts what these members say, whatever their
order and repetition. Every selector is read back from its document, and no two selectors have
the same document text. -/
theorem of_keeps_acceptance (protocols : List Protocol) (tags : List String) :
    let selector := of protocols tags
    IsFirstOccurrences protocols selector.protocols ∧
    (∀ tag, tag ∈ selector.tags.keys ↔ tag ∈ tags ∧ isBlankText tag = false) ∧
    of selector.protocols selector.tags.keys = selector ∧
    (∀ protocol, selector.acceptsProtocol protocol = true ↔
      protocols = [] ∨ protocol = .any ∨ .any ∈ protocols ∨ protocol ∈ protocols) ∧
    (∀ carried, selector.acceptsTags carried = true ↔
      (∀ tag ∈ tags, isBlankText tag = true) ∨
        ∃ tag ∈ carried, tag ∈ tags ∧ isBlankText tag = false) ∧
    (∀ protocols' tags', (∀ protocol, protocol ∈ protocols' ↔ protocol ∈ protocols) →
      (∀ tag, tag ∈ tags' ↔ tag ∈ tags) →
      (∀ protocol, (of protocols' tags').acceptsProtocol protocol =
        selector.acceptsProtocol protocol) ∧
      ∀ carried carried' : List String, (∀ tag, tag ∈ carried' ↔ tag ∈ carried) →
        (of protocols' tags').acceptsTags carried' = selector.acceptsTags carried) ∧
    (∀ kept : NodeSelector, ofJson? kept.toJson = some kept) ∧
    ∀ first second : NodeSelector, first.toJson.toText = second.toJson.toText → first = second := by
  intro selector
  refine ⟨isFirstOccurrences_of protocols tags, fun _ => mem_tags_of, of_of protocols tags,
    fun _ => of_acceptsProtocol_iff, fun _ => of_acceptsTags_iff,
    fun _ _ hProtocols hTags => of_accepts_congr hProtocols hTags, ofJson?_toJson,
    fun _ _ => eq_of_toText_eq⟩

/-- A repeated protocol and a blank tag leave no trace in a selector that is made of them; in one
that was read they stay. -/
theorem of_keeps_acceptance_repeated :
    let protocols : List Protocol := [.http, .grpc, .http]
    let tags := ["dc1", " ", "ssd"]
    let selector := of protocols tags
    (∀ protocol, protocol ∈ [.grpc, .http] ↔ protocol ∈ protocols) ∧
    (∀ tag, tag ∈ ["ssd", " ", "dc1", "ssd"] ↔ tag ∈ tags) ∧
    (∀ tag, tag ∈ ["ssd", "hdd", "ssd"] ↔ tag ∈ ["hdd", "ssd"]) ∧
    selector.protocols = [.http, .grpc] ∧ selector.tags.keys = ["dc1", "ssd"] ∧
    selector.acceptsProtocol .tcp = false ∧
    (of [.grpc, .http] ["ssd", " ", "dc1", "ssd"]).acceptsTags ["ssd", "hdd", "ssd"] =
      selector.acceptsTags ["hdd", "ssd"] ∧
    ofJson? (toJson ⟨[.http, .http], .ofList [" "]⟩) = some ⟨[.http, .http], .ofList [" "]⟩ ∧
    (of [.http] [" "]).toJson.toText = (of [.http, .http] []).toJson.toText ∧
    of [.http] [" "] = of [.http, .http] [] := by
  intro protocols tags selector
  have hProtocols : ∀ protocol, protocol ∈ [.grpc, .http] ↔ protocol ∈ protocols := by
    intro protocol
    cases protocol <;> decide
  have hTags (tag : String) : tag ∈ ["ssd", " ", "dc1", "ssd"] ↔ tag ∈ tags := by
    simp only [tags, List.mem_cons, List.not_mem_nil, or_false]
    tauto
  have hCarried (tag : String) : tag ∈ ["ssd", "hdd", "ssd"] ↔ tag ∈ ["hdd", "ssd"] := by
    simp only [List.mem_cons, List.not_mem_nil, or_false]
    tauto
  obtain ⟨-, -, -, -, -, hSame, hRead, hUnique⟩ := of_keeps_acceptance protocols tags
  have hText : (of [.http] [" "]).toJson.toText = (of [.http, .http] []).toJson.toText := by
    decide +kernel
  refine ⟨hProtocols, hTags, hCarried, ?_, by decide +kernel, by decide +kernel,
    (hSame _ _ hProtocols hTags).2 _ _ hCarried, hRead _, hText, hUnique _ _ hText⟩
  decide +kernel

end NodeSelector

end DbClient

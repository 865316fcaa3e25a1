import DbClient.Json.Basic

/-! Compact texts of documents that are built of strings. Such a text shows where it ends, so
nothing that is written behind it can be taken for a part of it. Main statements:
`IsTextual.tellsApart` and `IsTextual.eq_of_toText_eq`, by which different documents have different
texts. -/

namespace DbClient.Json

variable {α : Type}

/-- The texts of two items differ if the items do, and not only in what is written behind. -/
def TellsApart (write : α → List Char) (item other : α) : Prop :=
  ∀ rest otherRest, write item ++ rest = write other ++ otherRest →
    item = other ∧ rest = otherRest

/-- Items that are written one after another up to a closing character are told apart if each
of them is. -/
theorem flatMap_append_inj {write : α → List Char} {closing : Char} {items others : List α}
    (hClosing : ∀ item rest closed, write item ++ rest ≠ closing :: closed)
    (hApart : ∀ item ∈ items, ∀ other ∈ others, TellsApart write item other)
    {rest otherRest : List Char}
    (h : items.flatMap write ++ closing :: rest = others.flatMap write ++ closing :: otherRest) :
    items = others ∧ rest = otherRest := by
  induction items generalizing others with
  | nil =>
      cases others with
      | nil => exact ⟨rfl, (List.cons.inj h).2⟩
      | cons other others =>
          rw [List.flatMap_cons, List.append_assoc] at h
          exact absurd h.symm (hClosing other _ _)
  | cons item items ih =>
      cases others with
      | nil =>
          rw [List.flatMap_cons, List.append_assoc] at h
          exact absurd h (hClosing item _ _)
      | cons other others =>
          rw [List.flatMap_cons, List.flatMap_cons, List.append_assoc, List.append_assoc] at h
          obtain ⟨rfl, hBehind⟩ :=
            hApart item List.mem_cons_self other List.mem_cons_self _ _ h
          obtain ⟨rfl, hRest⟩ := ih (fun item hItem other hOther =>
            hApart item (List.mem_cons_of_mem _ hItem) other (List.mem_cons_of_mem _ hOther)) hBehind
          exact ⟨rfl, hRest⟩

/-! ### Strings -/

/-- The character that a letter stands for behind a backslash. -/
def named? : Char → Option Char
  | '"' => some '"'
  | '\\' => some '\\'
  | 'b' => some '\x08'
  | 'f' => some '\x0c'
  | 'n' => some '\n'
  | 'r' => some '\r'
  | 't' => some '\t'
  | _ => none

/-- Reads a character as it is written between the quotes of a string. -/
def readEscaped? : List Char → Option (Char × List Char)
  | '\\' :: 'u' :: rest =>
    (Text.natOfHex? (rest.take 4)).map fun code => (.ofNat code, rest.drop 4)
  | '\\' :: name :: rest => (named? name).map fun c => (c, rest)
  | c :: rest => some (c, rest)
  | [] => none

/-- Any character but a backslash stands for itself. -/
theorem readEscaped?_cons {c : Char} (hPlain : c ≠ '\\') (rest : List Char) :
    readEscaped? (c :: rest) = some (c, rest) := by
  rw [readEscaped?]
  · rintro _ rfl
    exact absurd rfl hPlain
  · rintro _ _ rfl
    exact absurd rfl hPlain

/-- A control character is read back from its hexadecimal digits, of which there are four. -/
theorem hexDigits_control {n : Nat} (hControl : n < 0x20) :
    let digits := Text.hexDigits n
    let padded := List.replicate (4 - digits.length) '0' ++ digits
    padded.length = 4 ∧ Text.natOfHex? padded = some n := by
  revert n
  decide

/-- A character without an escape of its own is written by its code, or as itself. -/
theorem escapeChar_of_not_named {c : Char}
    (hNamed : c ∉ ['"', '\\', '\x08', '\x0c', '\n', '\r', '\t']) :
    escapeChar c = if c.toNat < 0x20 then
      let digits := Text.hexDigits c.toNat
      ['\\', 'u'] ++ (List.replicate (4 - digits.length) '0' ++ digits) else [c] := by
  simp only [List.mem_cons, List.not_mem_nil, or_false, not_or] at hNamed
  obtain ⟨hQuote, hBackslash, hB, hF, hN, hR, hT⟩ := hNamed
  simp [escapeChar, hQuote, hBackslash, hB, hF, hN, hR, hT]

/-- A character is read back from what is written for it, whatever follows. -/
theorem readEscaped?_escapeChar (c : Char) (rest : List Char) :
    readEscaped? (escapeChar c ++ rest) = some (c, rest) := by
  by_cases hNamed : c ∈ ['"', '\\', '\x08', '\x0c', '\n', '\r', '\t']
  · simp only [List.mem_cons, List.not_mem_nil, or_false] at hNamed
    rcases hNamed with rfl | rfl | rfl | rfl | rfl | rfl | rfl <;> rfl
  rw [escapeChar_of_not_named hNamed]
  split
  · rename_i hControl
    obtain ⟨hLength, hCode⟩ := hexDigits_control hControl
    rw [List.append_assoc, List.cons_append, List.cons_append, List.nil_append, readEscaped?,
      List.take_left' hLength, List.drop_left' hLength, hCode, Option.map_some, Char.ofNat_toNat]
  · have hPlain : c ≠ '\\' := fun hc => hNamed (by simp [hc])
    exact readEscaped?_cons hPlain rest

/-- The escaped text of a character tells which one it is. -/
theorem escapeChar_tellsApart (c other : Char) : TellsApart escapeChar c other := by
  intro rest otherRest h
  have hRead := readEscaped?_escapeChar c rest
  rw [h, readEscaped?_escapeChar] at hRead
  cases hRead
  exact ⟨rfl, rfl⟩

/-- Between the quotes of a string no quote stands unescaped. -/
theorem escapeChar_append_ne_quote (c : Char) (rest closed : List Char) :
    escapeChar c ++ rest ≠ '"' :: closed := by
  intro h
  have hRead := readEscaped?_escapeChar c rest
  rw [h, readEscaped?_cons (by decide)] at hRead
  cases hRead
  -- The quote itself is written with a backslash.
  cases h

/-- The text of a string tells which one it is. -/
theorem stringText_tellsApart (text other : String) : TellsApart stringText text other := by
  intro rest otherRest h
  simp only [stringText, List.cons_append, List.append_assoc, List.nil_append,
    List.cons.injEq, true_and] at h
  obtain ⟨hText, hRest⟩ := flatMap_append_inj escapeChar_append_ne_quote
    (fun c _ other _ => escapeChar_tellsApart c other) h
  exact ⟨String.toList_inj.mp hText, hRest⟩

/-! ### Lists -/

/-- Items with commas between them. -/
def commaSeparated (write : α → List Char) : List α → List Char
  | [] => []
  | item :: items => write item ++ items.flatMap fun next => ',' :: write next

theorem renderItems_eq (items : List Json) : renderItems items = commaSeparated render items := by
  induction items with
  | nil => rfl
  | cons item items ih =>
      cases items with
      | nil => simp [renderItems, commaSeparated]
      | cons next items => simp [renderItems, commaSeparated, ih]

/-- The text of a member. -/
def renderMember (member : String × Json) : List Char :=
  stringText member.1 ++ ':' :: member.2.render

theorem renderMembers_eq (members : List (String × Json)) :
    renderMembers members = commaSeparated renderMember members := by
  induction members with
  | nil => rfl
  | cons member members ih =>
      cases members with
      | nil => simp [renderMembers, commaSeparated, renderMember]
      | cons next members => simp [renderMembers, commaSeparated, renderMember, ih]

/-- The text of a member tells which one it is, if that of its value does. -/
theorem renderMember_tellsApart {member other : String × Json}
    (hValue : TellsApart render member.2 other.2) : TellsApart renderMember member other := by
  intro rest otherRest h
  rw [renderMember, renderMember, List.append_assoc, List.append_assoc] at h
  obtain ⟨hKey, hBehind⟩ := stringText_tellsApart member.1 other.1 _ _ h
  obtain ⟨hSame, hRest⟩ := hValue rest otherRest (List.cons.inj hBehind).2
  exact ⟨Prod.ext hKey hSame, hRest⟩

/-- Items between brackets are told apart if each of them is. -/
theorem commaSeparated_append_inj {write : α → List Char} {closing : Char} {items others : List α}
    (hComma : closing ≠ ',')
    (hOpening : ∀ item, item ∈ items ∨ item ∈ others → ∀ rest closed,
      write item ++ rest ≠ closing :: closed)
    (hApart : ∀ item ∈ items, ∀ other ∈ others, TellsApart write item other)
    {rest otherRest : List Char}
    (h : commaSeparated write items ++ closing :: rest =
      commaSeparated write others ++ closing :: otherRest) :
    items = others ∧ rest = otherRest := by
  cases items with
  | nil =>
      cases others with
      | nil => exact ⟨rfl, (List.cons.inj h).2⟩
      | cons other others =>
          rw [commaSeparated, commaSeparated, List.append_assoc] at h
          exact absurd h.symm (hOpening other (.inr List.mem_cons_self) _ _)
  | cons item items =>
      cases others with
      | nil =>
          rw [commaSeparated, commaSeparated, List.append_assoc] at h
          exact absurd h (hOpening item (.inl List.mem_cons_self) _ _)
      | cons other others =>
          rw [commaSeparated, commaSeparated, List.append_assoc, List.append_assoc] at h
          obtain ⟨rfl, hBehind⟩ :=
            hApart item List.mem_cons_self other List.mem_cons_self _ _ h
          obtain ⟨rfl, hRest⟩ := flatMap_append_inj
            (fun item rest closed hText => hComma (List.cons.inj hText).1.symm)
            (fun item hItem other hOther rest otherRest hText =>
              hApart item (List.mem_cons_of_mem _ hItem) other (List.mem_cons_of_mem _ hOther)
                rest otherRest (List.cons.inj hText).2) hBehind
          exact ⟨rfl, hRest⟩

/-! ### Documents -/

/-- Documents that are built of strings. -/
inductive IsTextual : Json → Prop where
  | string (value : String) : IsTextual (string value)
  | array {items : List Json} (hItems : ∀ item ∈ items, IsTextual item) : IsTextual (array items)
  | object {members : List (String × Json)} (hMembers : ∀ member ∈ members, IsTextual member.2) :
    IsTextual (object members)

/-- No bracket that closes an array stands at the front of a document. -/
theorem IsTextual.render_append_ne {document : Json} (hDocument : IsTextual document)
    (rest closed : List Char) : document.render ++ rest ≠ ']' :: closed := by
  cases hDocument <;> simp [render, stringText]

/-- The text of a document that is built of strings shows where it ends. -/
theorem IsTextual.tellsApart {document other : Json} (hDocument : IsTextual document)
    (hOther : IsTextual other) : TellsApart render document other := by
  induction hDocument generalizing other with
  | string value =>
      intro rest otherRest h
      cases hOther with
      | string otherValue =>
          simp only [render] at h
          obtain ⟨rfl, hRest⟩ := stringText_tellsApart value otherValue rest otherRest h
          exact ⟨rfl, hRest⟩
      | array _ => simp [render, stringText] at h
      | object _ => simp [render, stringText] at h
  | array hItems ih =>
      intro rest otherRest h
      cases hOther with
      | string otherValue => simp [render, stringText] at h
      | @array others hOthers =>
          simp only [render, renderItems_eq, List.cons_append, List.append_assoc, List.nil_append,
            List.cons.injEq, true_and] at h
          obtain ⟨rfl, hRest⟩ := commaSeparated_append_inj (by decide)
            (fun item hItem => (hItem.elim (hItems item) (hOthers item)).render_append_ne)
            (fun item hItem other hOther => ih item hItem (hOthers other hOther)) h
          exact ⟨rfl, hRest⟩
      | object _ => simp [render] at h
  | object hMembers ih =>
      intro rest otherRest h
      cases hOther with
      | string otherValue => simp [render, stringText] at h
      | array _ => simp [render] at h
      | @object others hOthers =>
          simp only [render, renderMembers_eq, List.cons_append, List.append_assoc,
            List.nil_append, List.cons.injEq, true_and] at h
          obtain ⟨rfl, hRest⟩ := commaSeparated_append_inj (by decide)
            (fun member _ rest closed => by simp [renderMember, stringText])
            (fun member hMember other hOther =>
              renderMember_tellsApart (ih member hMember (hOthers other hOther))) h
          exact ⟨rfl, hRest⟩

/-- Different documents that are built of strings have different texts. -/
theorem IsTextual.eq_of_toText_eq {document other : Json} (hDocument : IsTextual document)
    (hOther : IsTextual other) (h : document.toText = other.toText) : document = other := by
  have hRender := String.ofList_injective h
  exact (hDocument.tellsApart hOther [] [] (by rw [hRender])).1

end DbClient.Json

import DbClient.Session.Identity

/-! The order of versions, and the checks that compare only the parts that a text writes out. Main
statement: `checks_follow_order` says that versions are in a total order, and that the checks say
what this order says, since the parts that a text leaves out are zero. -/

namespace DbClient

/-- A comparison by which things are in a total order, where those that compare as equal are the
same. -/
structure IsTotalOrder {α : Type} (order : α → α → Ordering) (same : α → α → Bool) : Prop where
  refl : ∀ first, order first first = .eq
  swap : ∀ first second, order second first = (order first second).swap
  antisymm : ∀ first second, (order first second).isLE = true →
    (order second first).isLE = true → same first second = true
  trans : ∀ first second third, (order first second).isLE = true →
    (order second third).isLE = true → (order first third).isLE = true
  total : ∀ first second, (order first second).isLE = true ∨ (order second first).isLE = true
  eq_iff : ∀ first second, order first second = .eq ↔ same first second = true

/-- Nothing is before zeros. -/
theorem compare_zeros_ne_lt {parts zeros : List UInt32} (hLength : parts.length = zeros.length)
    (hZero : ∀ part ∈ zeros, part = 0) : compare parts zeros ≠ .lt := by
  induction parts generalizing zeros with
  | nil =>
      cases List.length_eq_zero_iff.mp hLength.symm
      decide
  | cons part parts ih =>
      cases zeros with
      | nil => cases hLength
      | cons zero zeros =>
          obtain ⟨rfl, hZeros⟩ := List.forall_mem_cons.mp hZero
          have hRest := ih (Nat.succ.inj hLength) hZeros
          have hPart : compare part 0 ≠ .lt := by
            rw [Ne, Std.compare_eq_lt]
            exact UInt32.not_lt_zero
          rw [List.compare_cons_cons, Ne, Ordering.then_eq_lt]
          exact not_or.mpr ⟨hPart, fun h => hRest h.2⟩

/-- Where the second list goes on with zeros, its leading parts decide whether the first list is
before it. -/
theorem compare_take_eq_lt_iff {left right : List UInt32} {count : Nat}
    (hLength : left.length = right.length) (hZero : ∀ part ∈ right.drop count, part = 0) :
    compare (left.take count) (right.take count) = .lt ↔ compare left right = .lt := by
  induction left generalizing right count with
  | nil =>
      cases List.length_eq_zero_iff.mp hLength.symm
      simp
  | cons part left ih =>
      cases right with
      | nil => cases hLength
      | cons other right =>
          cases count with
          | zero => simpa using compare_zeros_ne_lt hLength hZero
          | succ count =>
              have hRest := ih (Nat.succ.inj hLength) hZero
              simp only [List.take_succ_cons, List.compare_cons_cons]
              cases compare part other with
              | eq => exact hRest
              | lt => exact Iff.rfl
              | gt => exact Iff.rfl

theorem Release.toList_inj {left right : Release} : left.toList = right.toList ↔ left = right := by
  cases left
  cases right
  simp [toList]

/-- Parts that are left out are zero. -/
theorem Release.toList_ofList {parts : List UInt32} (hLength : parts.length ≤ 4) :
    (ofList parts).toList = parts ++ List.replicate (4 - parts.length) 0 := by
  rcases parts with _ | ⟨year, _ | ⟨feature, _ | ⟨maintenance, _ | ⟨build, _ | ⟨part, rest⟩⟩⟩⟩⟩
  case cons.cons.cons.cons.cons =>
    simp only [List.length_cons] at hLength
    omega
  all_goals rfl

/-- What a hash of a release is computed from has all its parts. -/
theorem Release.map_number_inj {left right : Release} :
    left.toList.map (fun part => FingerprintItem.number part.toNat) =
      right.toList.map (fun part => FingerprintItem.number part.toNat) ↔ left = right := by
  rw [List.map_inj_right, toList_inj]
  intro first second hNumber
  exact UInt32.toNat_inj.mp (Int.ofNat_inj.mp (FingerprintItem.number.inj hNumber))

namespace Version

variable {version other : Version} {text : String}

/-- The latest version is behind all others; these are ordered by their parts. -/
theorem order_eq_compareLex :
    order = compareLex (compareOn isLatest) (compareOn fun version => version.release.toList) := by
  funext left right
  cases left <;> cases right <;> rfl

instance : Std.TransCmp order :=
  order_eq_compareLex ▸ inferInstance

theorem order_eq_iff : order version other = .eq ↔ same version other = true := by
  cases version <;> cases other <;> simp [order, same, Release.toList_inj]

/-- Versions are in a total order. -/
theorem isTotalOrder_order : IsTotalOrder order same := by
  have hSwap (first second : Version) : order second first = (order first second).swap :=
    Std.OrientedCmp.eq_swap
  refine ⟨fun _ => Std.ReflCmp.compare_self, hSwap, fun _ _ hFirst hSecond => ?_,
    fun _ _ _ => Std.TransCmp.isLE_trans, fun first second => ?_, fun _ _ => order_eq_iff⟩
  · exact order_eq_iff.mp (Std.OrientedCmp.isLE_antisymm hFirst hSecond)
  · rw [hSwap first second]
    cases order first second <;> decide

/-- Versions are the same exactly if their hashes are computed from the same items. -/
theorem same_iff_fingerprint_eq :
    same version other = true ↔ version.fingerprint = other.fingerprint := by
  cases version <;> cases other
  case numbered.numbered left _ right _ =>
    rw [same, decide_eq_true_iff, ← Release.map_number_inj]
    exact ⟨congrArg _, List.tail_eq_of_cons_eq⟩
  all_goals simp [same, fingerprint, isLatest]

theorem length_readParts_le (pieces : List (List Char)) :
    (readParts pieces).length ≤ pieces.length := by
  induction pieces with
  | nil => exact Nat.le_refl 0
  | cons piece pieces ih =>
      simp only [readParts]
      split
      · exact Nat.zero_le _
      · split
        · exact Nat.succ_le_succ (Nat.zero_le _)
        · exact Nat.succ_le_succ ih

/-- The parts that were not written out are zero. -/
def IsPadded : Version → Prop
  | latest => True
  | numbered release specified => ∀ part ∈ release.toList.drop specified, part = 0

/-- The parts that a text leaves out are zero in its version. -/
theorem isPadded_parse (text : String) : (parse text).IsPadded := by
  rw [parse]
  dsimp only
  split
  · trivial
  · generalize hPieces : ((Text.splitOn '.' _).take 4) = pieces
    have hLength : (readParts pieces).length ≤ 4 :=
      Nat.le_trans (length_readParts_le pieces) (hPieces ▸ List.length_take_le _ _)
    intro part hPart
    rw [Release.toList_ofList hLength, List.drop_left] at hPart
    exact List.eq_of_mem_replicate hPart

/-- Comparing the written parts only does not change what is older. -/
theorem orderPrefix_eq_lt_iff (hPadded : other.IsPadded) :
    orderPrefix version other = .lt ↔ order version other = .lt := by
  cases other with
  | latest => cases version <;> exact Iff.rfl
  | numbered right specified =>
      cases version with
      | latest => exact Iff.rfl
      | numbered left _ =>
          refine compare_take_eq_lt_iff rfl fun part hPart => hPadded part ?_
          exact List.drop_subset_drop_left _ (Nat.le_max_left specified 1) hPart

theorem isOlderThan_iff :
    isOlderThan version text = true ↔ order version (parse text) = .lt :=
  beq_iff_eq.trans (orderPrefix_eq_lt_iff (isPadded_parse text))

/-- A version is at least what a text says exactly if it is not before the version of the text. -/
theorem isAtLeast_iff :
    isAtLeast version text = true ↔ (order (parse text) version).isLE = true := by
  rw [isAtLeast, bne_iff_ne, Ne, orderPrefix_eq_lt_iff (isPadded_parse text),
    isTotalOrder_order.swap version]
  cases order version (parse text) <;> decide

/-- Versions are in a total order in which the latest one is above all others. It does not matter
how many parts were written out, neither for the order nor for what a hash is computed from. A
version is older than what a text denotes, or not, by this order, although the check compares only
the parts that the text writes out; so what a version is new enough for, all later ones are. -/
theorem checks_follow_order :
    IsTotalOrder order same ∧
    (∀ left right, same left right = true ↔ left.fingerprint = right.fingerprint) ∧
    (∀ release first second, same (numbered release first) (numbered release second) = true) ∧
    (∀ release specified, order (numbered release specified) latest = .lt) ∧
    (∀ version text,
      (isOlderThan version text = true ↔ order version (parse text) = .lt) ∧
      (isAtLeast version text = true ↔ (order (parse text) version).isLE = true)) ∧
    ∀ lower upper text, (order lower upper).isLE = true → isAtLeast lower text = true →
      isAtLeast upper text = true := by
  refine ⟨isTotalOrder_order, fun _ _ => same_iff_fingerprint_eq, fun release _ _ => ?_,
    fun _ _ => rfl, fun _ _ => ⟨isOlderThan_iff, isAtLeast_iff⟩, ?_⟩
  · exact decide_eq_true (rfl : release = release)
  · intro lower upper text hLE hLower
    rw [isAtLeast_iff] at hLower ⊢
    exact isTotalOrder_order.trans _ _ _ hLower hLE

/-- What 21.8 is new enough for, 22.3.1 is new enough for too. -/
theorem isAtLeast_later_release :
    (order (parse "21.8") (parse "22.3.1")).isLE = true ∧ isAtLeast (parse "21.8") "21" = true ∧
      isAtLeast (parse "22.3.1") "21" = true := by
  have hOrder : (order (parse "21.8") (parse "22.3.1")).isLE = true := by decide +kernel
  have hAtLeast : isAtLeast (parse "21.8") "21" = true := by decide +kernel
  exact ⟨hOrder, hAtLeast, checks_follow_order.2.2.2.2.2 _ _ _ hOrder hAtLeast⟩

end Version

end DbClient

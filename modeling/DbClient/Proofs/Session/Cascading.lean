import DbClient.Session.BufferSizes

/-! Buffer sizes as tiers, each of which falls back to the one above it. Main statement:
`BufferSizes.resolve_cascades`, by which the effective sizes are positive or absent altogether,
stay below a positive maximum, settle after one round and grow with the maximum. -/

namespace DbClient

/-- The sizes of a session, from the most general one on. -/
inductive BufferTier where
  | maximum
  | buffer
  | read
  | write
  | requestChunk
  deriving DecidableEq

namespace BufferTier

/-- The tier that an unset size falls back to. -/
def parent? : BufferTier → Option BufferTier
  | maximum => none
  | buffer => some maximum
  | read => some buffer
  | write => some buffer
  | requestChunk => some write

/-- The tiers from one upwards. -/
inductive Reaches : BufferTier → BufferTier → Prop where
  | self (tier : BufferTier) : Reaches tier tier
  | up {tier parent above : BufferTier} (hParent : tier.parent? = some parent)
      (hAbove : Reaches parent above) : Reaches tier above

/-- What holds of the maximum and of every tier below one that it holds of, holds of all. -/
@[elab_as_elim]
theorem downwards {motive : BufferTier → Prop} (top : motive maximum)
    (below : ∀ tier parent, tier.parent? = some parent → motive parent → motive tier)
    (tier : BufferTier) : motive tier := by
  have hBuffer := below buffer maximum rfl top
  have hWrite := below write buffer rfl hBuffer
  cases tier with
  | maximum => exact top
  | buffer => exact hBuffer
  | read => exact below read buffer rfl hBuffer
  | write => exact hWrite
  | requestChunk => exact below requestChunk write rfl hWrite

theorem forall_reaches_maximum_iff {holds : BufferTier → Prop} :
    (∀ above, maximum.Reaches above → holds above) ↔ holds maximum := by
  constructor
  · exact fun hAll => hAll maximum (.self maximum)
  · intro hTop above hAbove
    cases hAbove with
    | self => exact hTop
    | up hParent _ => cases hParent

/-- What holds at all tiers from one on holds at this one and at all tiers from its parent on. -/
theorem forall_reaches_iff {holds : BufferTier → Prop} {tier parent : BufferTier}
    (hParent : tier.parent? = some parent) :
    (∀ above, tier.Reaches above → holds above) ↔
      holds tier ∧ ∀ above, parent.Reaches above → holds above := by
  constructor
  · exact fun hAll => ⟨hAll tier (.self tier), fun above hAbove => hAll above (.up hParent hAbove)⟩
  · rintro ⟨hTier, hRest⟩ above hAbove
    cases hAbove with
    | self => exact hTier
    | up hOther hAbove =>
        rw [hParent] at hOther
        cases hOther
        exact hRest above hAbove

end BufferTier

/-! ### One step of the cascade -/

/-- A size that a positive maximum limits. -/
def capped (maximum size : Int32) : Int32 :=
  if 0 < maximum then min size maximum else size

/-- A size that is not positive is replaced, and the result is capped. -/
theorem bufferSize_eq (configured fallback maximum : Int32) :
    bufferSize configured fallback maximum =
      capped maximum (if 0 < configured then configured else fallback) := by
  have hMin (size : Int32) : min size maximum = if size ≤ maximum then size else maximum := rfl
  simp only [bufferSize, capped, hMin]
  grind

/-- A size, or the mark that there is none; below a positive maximum there is one. -/
structure IsSize (maximum size : Int32) : Prop where
  positive_or_absent : 0 < size ∨ size = -1
  below : 0 < maximum → 0 < size ∧ size ≤ maximum

theorem isSize_bufferSize {fallback maximum : Int32} (hFallback : IsSize maximum fallback)
    (configured : Int32) : IsSize maximum (bufferSize configured fallback maximum) := by
  obtain ⟨hSize, hBelow⟩ := hFallback
  constructor
  · grind [bufferSize]
  · grind [bufferSize]

theorem bufferSize_eq_absent_iff {configured fallback maximum : Int32} :
    bufferSize configured fallback maximum = -1 ↔ configured ≤ 0 ∧ fallback = -1 := by
  grind [bufferSize]

/-- A second step with the same fallback and maximum does nothing. -/
theorem bufferSize_bufferSize (configured fallback maximum : Int32) :
    bufferSize (bufferSize configured fallback maximum) fallback maximum =
      bufferSize configured fallback maximum := by
  grind [bufferSize]

theorem bufferSize_mono {fallback greater maximum raised : Int32} (hPos : 0 < maximum)
    (hRaised : maximum ≤ raised) (hGreater : fallback ≤ greater) (configured : Int32) :
    bufferSize configured fallback maximum ≤ bufferSize configured greater raised := by
  grind [bufferSize]

/-! ### The whole cascade -/

namespace BufferSizes

variable (configured : BufferSizes)

def size (sizes : BufferSizes) : BufferTier → Int32
  | .maximum => sizes.maximum
  | .buffer => sizes.buffer
  | .read => sizes.read
  | .write => sizes.write
  | .requestChunk => sizes.requestChunk

theorem size_maximum (sizes : BufferSizes) : sizes.size .maximum = sizes.maximum := rfl

theorem ext_size {sizes other : BufferSizes} (hSizes : ∀ tier, sizes.size tier = other.size tier) :
    sizes = other := by
  cases sizes
  cases other
  simp only [mk.injEq]
  exact ⟨hSizes .maximum, hSizes .buffer, hSizes .read, hSizes .write, hSizes .requestChunk⟩

theorem maximum_resolve :
    configured.resolve.maximum = if 0 < configured.maximum then configured.maximum else -1 := by
  have hOpen : ¬ ((0 : Int32) < -1) := by decide
  simp [resolve, bufferSize, hOpen]

theorem maximum_resolve_of_pos {configured : BufferSizes} (hPos : 0 < configured.maximum) :
    configured.resolve.maximum = configured.maximum := by
  rw [maximum_resolve, if_pos hPos]

/-- An absent maximum limits nothing, however it is given. -/
theorem capped_resolve (size : Int32) :
    capped configured.resolve.maximum size = capped configured.maximum size := by
  rw [maximum_resolve, capped, capped]
  grind

/-- Every tier below the maximum is one step away from its parent. -/
theorem size_resolve {tier parent : BufferTier} (hParent : tier.parent? = some parent) :
    configured.resolve.size tier = bufferSize (configured.size tier)
      (configured.resolve.size parent) configured.resolve.maximum := by
  cases tier <;> cases hParent <;> rfl

/-- At every tier, there is a size within the maximum or none. -/
theorem isSize_resolve (tier : BufferTier) :
    IsSize configured.resolve.maximum (configured.resolve.size tier) := by
  induction tier using BufferTier.downwards with
  | top =>
      rw [size_maximum, maximum_resolve]
      constructor <;> grind
  | below tier parent hParent ih =>
      rw [size_resolve configured hParent]
      exact isSize_bufferSize ih _

/-- A size is absent exactly if nothing is configured at its tier and at all tiers above. -/
theorem size_resolve_eq_absent_iff (tier : BufferTier) : configured.resolve.size tier = -1 ↔
    ∀ above, tier.Reaches above → configured.size above ≤ 0 := by
  induction tier using BufferTier.downwards with
  | top =>
      rw [BufferTier.forall_reaches_maximum_iff, size_maximum, size_maximum, maximum_resolve]
      grind
  | below tier parent hParent ih =>
      rw [size_resolve configured hParent, bufferSize_eq_absent_iff, ih,
        BufferTier.forall_reaches_iff hParent]

/-- Effective sizes are their own effective sizes. -/
theorem resolve_resolve : configured.resolve.resolve = configured.resolve := by
  have hMaximum : configured.resolve.resolve.maximum = configured.resolve.maximum := by
    rw [maximum_resolve, maximum_resolve]
    grind
  refine ext_size fun tier => ?_
  induction tier using BufferTier.downwards with
  | top => exact hMaximum
  | below tier parent hParent ih =>
      rw [size_resolve configured.resolve hParent, ih, hMaximum, size_resolve configured hParent,
        bufferSize_bufferSize]

/-- The maximum is a tier without a parent, so no other size changes with it. -/
theorem size_of_parent {tier parent : BufferTier} (hParent : tier.parent? = some parent)
    (maximum : Int32) : { configured with maximum }.size tier = configured.size tier := by
  cases tier <;> cases hParent <;> rfl

/-- A greater maximum makes no size smaller. -/
theorem resolve_mono {maximum : Int32} (hPos : 0 < configured.maximum)
    (hRaised : configured.maximum ≤ maximum) (tier : BufferTier) :
    configured.resolve.size tier ≤ { configured with maximum }.resolve.size tier := by
  have hFirst := maximum_resolve_of_pos hPos
  have hSecond : { configured with maximum }.resolve.maximum = maximum :=
    maximum_resolve_of_pos (Int32.lt_of_lt_of_le hPos hRaised)
  induction tier using BufferTier.downwards with
  | top =>
      rw [size_maximum, size_maximum, hFirst, hSecond]
      exact hRaised
  | below tier parent hParent ih =>
      rw [size_resolve _ hParent, size_resolve _ hParent, hFirst, hSecond,
        size_of_parent configured hParent maximum]
      exact bufferSize_mono hPos hRaised ih _

/-- Every effective size is the configured one, if that is positive, or else the effective size of
the next more general tier, capped at a positive maximum. It is positive or `-1`, from one up to a
positive maximum, and `-1` exactly if nothing is configured from the tier upwards. To take the
effective sizes of effective sizes changes nothing, and a greater maximum makes no size smaller. -/
theorem resolve_cascades :
    configured.resolve.maximum =
      (if 0 < configured.maximum then configured.maximum else -1) ∧
    (∀ tier parent, tier.parent? = some parent → configured.resolve.size tier =
      capped configured.maximum
        (if 0 < configured.size tier then configured.size tier
        else configured.resolve.size parent)) ∧
    (∀ tier, 0 < configured.resolve.size tier ∨ configured.resolve.size tier = -1) ∧
    (0 < configured.maximum → ∀ tier,
      1 ≤ configured.resolve.size tier ∧ configured.resolve.size tier ≤ configured.maximum) ∧
    (∀ tier, configured.resolve.size tier = -1 ↔
      ∀ above, tier.Reaches above → configured.size above ≤ 0) ∧
    configured.resolve.resolve = configured.resolve ∧
    ∀ maximum, 0 < configured.maximum → configured.maximum ≤ maximum → ∀ tier,
      configured.resolve.size tier ≤ { configured with maximum }.resolve.size tier := by
  refine ⟨maximum_resolve configured, ?_, fun tier => (isSize_resolve configured tier).1, ?_,
    size_resolve_eq_absent_iff configured, resolve_resolve configured,
    fun maximum => resolve_mono configured⟩
  · intro tier parent hParent
    rw [size_resolve configured hParent, bufferSize_eq, capped_resolve]
  · intro hPos tier
    have hBelow := (isSize_resolve configured tier).below
    rw [maximum_resolve_of_pos hPos] at hBelow
    obtain ⟨hSize, hLimit⟩ := hBelow hPos
    exact ⟨by grind, hLimit⟩

/-- A size above the maximum is capped, and a size that is set below an unset one is kept. -/
theorem resolve_cascades_capped :
    let sizes : BufferSizes := ⟨8192, 0, 16384, 2048, -1⟩
    sizes.resolve = ⟨8192, 8192, 8192, 2048, 2048⟩ ∧
    sizes.resolve.size .read = capped 8192 16384 ∧
    (1 ≤ sizes.resolve.size .requestChunk ∧ sizes.resolve.size .requestChunk ≤ 8192) ∧
    sizes.resolve.size .read ≤ { sizes with maximum := 20000 }.resolve.size .read := by
  intro sizes
  obtain ⟨-, hParent, -, hBelow, -, -, hRaised⟩ := resolve_cascades sizes
  exact ⟨by decide, hParent .read .buffer rfl, hBelow (by decide) .requestChunk,
    hRaised 20000 (by decide) (by decide) .read⟩

end BufferSizes

end DbClient

import Mathlib.Data.List.Chain
import FsidRegistry.Proofs.Binary64.Scaling
import FsidRegistry.Proofs.Retry.Overflow

/-!
# The bounds of the pauses

The bound of the pauses is multiplied by at least `1` after each of them, but a multiplication by `1`
can shorten a long duration.  So a run of pauses goes one way: if the first pause does not shorten the
bound, none does, and otherwise none makes it longer.

* `Backoff.Draws`: the pauses of a run, each with its bound; `Backoff.exists_pauses_eq_ok_iff` says that
  they are those of `Backoff.pauses`.
* `Backoff.bound_grown_mono`: the longer of two bounds stays the longer one.
* `Backoff.Draws.pairwise`: so a run goes on as it begins.
* `Policy.bounds_rise_unless_long`: the runs of every policy.
-/

namespace FsidRegistry.Retry

/-- A pause, and the bound that it is drawn under. -/
structure Drawn where
  bound : Duration
  pause : Duration
deriving DecidableEq

namespace Backoff

variable {b c last : Backoff} {log : List Drawn}

/-- Pauses are drawn one after another, and none of them faults. -/
inductive Draws : Backoff → List Drawn → Backoff → Prop
  | none (b : Backoff) : Draws b [] b
  | next {b b' last : Backoff} {draw : Nat} {pause : Duration} {log : List Drawn}
      (h : b.pause draw = .ok (pause, b')) (later : Draws b' log last) :
      Draws b (⟨b.bound, pause⟩ :: log) last

/-- The bounds of a run in nanoseconds: the one of each pause, and the one after the last of them. -/
def bounds (log : List Drawn) (last : Backoff) : List Nat :=
  log.map (·.bound.nanos) ++ [last.bound.nanos]

/-! ## One pause -/

theorem pause_eq_ok_iff {draw : Nat} {pause : Duration} {b' : Backoff} :
    b.pause draw = .ok (pause, b') ↔ b.Grows ∧ pause = .ofNanos (b.drawn draw) ∧ b' = b.grown := by
  by_cases h : b.Grows
  · rw [pause_eq h, Except.ok.injEq, Prod.mk.injEq, eq_comm, @eq_comm _ b.grown]
    exact (and_iff_right h).symm
  · rw [pause_of_not_grows h]
    exact ⟨nofun, fun h' => absurd h'.1 h⟩

theorem nanos_drawn_le_bound (b : Backoff) (draw : Nat) :
    (Duration.ofNanos (b.drawn draw)).nanos ≤ b.bound.nanos := by
  rw [b.nanos_drawn]
  exact Nat.le_trans (Nat.min_le_right _ _) (Nat.min_le_left _ _)

theorem Grows.exists_product (h : b.Grows) :
    ∃ product, b.bound.scale b.multiplier = .ok product ∧
      b.grown.bound.nanos = Nat.min product.nanos b.maximum.nanos := by
  obtain ⟨product, hproduct⟩ := Duration.isOk_iff_exists.mp h
  refine ⟨product, hproduct, ?_⟩
  rw [grown, hproduct]
  exact Duration.nanos_min _ _

/-- The longer of two bounds stays the longer one. -/
theorem bound_grown_mono (hb : b.Grows) (hc : c.Grows) (hmax : b.maximum = c.maximum)
    (hmul : b.multiplier = c.multiplier) (hle : b.bound.nanos ≤ c.bound.nanos) :
    b.grown.bound.nanos ≤ c.grown.bound.nanos := by
  obtain ⟨product, hproduct, hbound⟩ := hb.exists_product
  obtain ⟨product', hproduct', hbound'⟩ := hc.exists_product
  rw [← hmul] at hproduct'
  have hmono := Duration.scale_mono hle hproduct hproduct'
  rw [hbound, hbound', hmax]
  exact Nat.le_min.mpr ⟨Nat.le_trans (Nat.min_le_left _ _) hmono, Nat.min_le_right _ _⟩

/-- The bound is shortened just if the multiplication shortens it. -/
theorem le_bound_grown_iff (h : b.Grows) (hle : b.bound.nanos ≤ b.maximum.nanos) :
    b.bound.nanos ≤ b.grown.bound.nanos ↔ b.bound.Lasts b.multiplier := by
  obtain ⟨product, hproduct, hbound⟩ := h.exists_product
  rw [hbound]
  constructor
  · intro hb product' hp
    rw [hproduct] at hp
    cases hp
    exact Nat.le_trans hb (Nat.min_le_left _ _)
  · exact fun hlasts => Nat.le_min.mpr ⟨hlasts product hproduct, hle⟩

/-! ## All pauses of a run -/

/-- The runs are those of `pauses`, whatever is drawn. -/
theorem exists_pauses_eq_ok_iff {drawn : List Duration} :
    (∃ draws, b.pauses draws = .ok (drawn, last)) ↔
      ∃ log, b.Draws log last ∧ log.map (·.pause) = drawn := by
  constructor
  · rintro ⟨draws, h⟩
    induction draws generalizing b drawn with
    | nil =>
      cases h
      exact ⟨[], .none _, rfl⟩
    | cons draw draws ih =>
      rw [pauses] at h
      cases hpause : b.pause draw with
      | error fault => rw [hpause] at h; cases h
      | ok next =>
        obtain ⟨pause, b'⟩ := next
        cases hlater : b'.pauses draws with
        | error fault => simp only [hpause, bind, Except.bind, hlater] at h; cases h
        | ok rest =>
          obtain ⟨later, last'⟩ := rest
          simp only [hpause, bind, Except.bind, hlater] at h
          cases h
          obtain ⟨log, hlog, rfl⟩ := ih hlater
          exact ⟨_, .next hpause hlog, rfl⟩
  · rintro ⟨log, h, rfl⟩
    induction h with
    | none b => exact ⟨[], rfl⟩
    | @next b b' last draw pause log h later ih =>
      obtain ⟨draws, hdraws⟩ := ih
      refine ⟨draw :: draws, ?_⟩
      rw [pauses, h]
      simp only [bind, Except.bind, hdraws]
      rfl

namespace Draws

theorem head?_bounds (h : b.Draws log last) : (bounds log last).head? = some b.bound.nanos := by
  cases h <;> rfl

theorem bounds_le (h : b.Draws log last) (hle : b.bound.nanos ≤ b.maximum.nanos) :
    ∀ bound ∈ bounds log last, bound ≤ b.maximum.nanos := by
  induction h with
  | none b => simpa [bounds] using hle
  | next h later ih =>
    obtain ⟨-, -, rfl⟩ := pause_eq_ok_iff.mp h
    refine List.forall_mem_cons.mpr ⟨hle, ?_⟩
    rw [← maximum_grown]
    exact ih (bound_grown_le hle)

theorem pause_le (h : b.Draws log last) : ∀ x ∈ log, x.pause.nanos ≤ x.bound.nanos := by
  induction h with
  | none b => exact nofun
  | next h later ih =>
    obtain ⟨-, rfl, -⟩ := pause_eq_ok_iff.mp h
    exact List.forall_mem_cons.mpr ⟨nanos_drawn_le_bound _ _, ih⟩

/-- **A run goes on as it begins**: how the first pause changes the bound is how every pause does, if
it is a way that one pause hands on to the next. -/
theorem pairwise (R : Nat → Nat → Prop) [Trans R R R]
    (hkeeps : ∀ b : Backoff, b.Grows → b.grown.Grows → R b.bound.nanos b.grown.bound.nanos →
      R b.grown.bound.nanos b.grown.grown.bound.nanos)
    (h : b.Draws log last) (hfirst : b.Grows → R b.bound.nanos b.grown.bound.nanos) :
    (bounds log last).Pairwise R := by
  rw [← List.isChain_iff_pairwise]
  induction h with
  | none b => exact List.isChain_singleton _
  | next h later ih =>
    obtain ⟨hgrows, -, rfl⟩ := pause_eq_ok_iff.mp h
    refine List.isChain_cons.mpr ⟨?_, ih fun hnext => hkeeps _ hgrows hnext (hfirst hgrows)⟩
    intro bound hmem
    obtain rfl := Option.some.inj (later.head?_bounds.symm.trans hmem)
    exact hfirst hgrows

/-- If the multiplication does not shorten the first bound, the bounds never fall. -/
theorem pairwise_le (h : b.Draws log last) (hle : b.bound.nanos ≤ b.maximum.nanos)
    (hlasts : b.bound.Lasts b.multiplier) : (bounds log last).Pairwise (· ≤ ·) := by
  refine h.pairwise (· ≤ ·) (fun b hb hgrown hstep => ?_) fun hgrows =>
    (le_bound_grown_iff hgrows hle).mpr hlasts
  exact bound_grown_mono hb hgrown b.maximum_grown.symm b.multiplier_grown.symm hstep

/-- If it does, they never rise, and the last one is less than the first. -/
theorem pairwise_ge (h : b.Draws log last) (hle : b.bound.nanos ≤ b.maximum.nanos)
    (hlasts : ¬ b.bound.Lasts b.multiplier) :
    (bounds log last).Pairwise (· ≥ ·) ∧ (log ≠ [] → last.bound.nanos < b.bound.nanos) := by
  have hfalls : b.Grows → b.grown.bound.nanos < b.bound.nanos := fun hgrows =>
    Nat.lt_of_not_le fun hb => hlasts ((le_bound_grown_iff hgrows hle).mp hb)
  have hpairwise : (bounds log last).Pairwise (· ≥ ·) := by
    refine h.pairwise (· ≥ ·) (fun b hb hgrown hstep => ?_) fun hgrows => Nat.le_of_lt (hfalls hgrows)
    exact bound_grown_mono hgrown hb b.maximum_grown b.multiplier_grown hstep
  refine ⟨hpairwise, fun hlog => ?_⟩
  cases h with
  | none b => exact absurd rfl hlog
  | next h later =>
    obtain ⟨hgrows, -, rfl⟩ := pause_eq_ok_iff.mp h
    refine Nat.lt_of_le_of_lt ?_ (hfalls hgrows)
    cases later with
    | none b => exact Nat.le_refl _
    | next h' later =>
      refine List.rel_of_pairwise_cons (List.Pairwise.of_cons hpairwise) ?_
      exact List.mem_append_right _ (List.mem_singleton_self _)

end Draws

end Backoff

/-! ## All runs of a policy -/

namespace Policy

/-- The bound of the first pause is not shortened after it. -/
def Rises (p : Policy) : Prop := (p.initial.min p.maximum).Lasts p.multiplier.atLeastOne

instance (p : Policy) : Decidable p.Rises := inferInstanceAs (Decidable (Duration.Lasts _ _))

theorem rises_of_exceedsOne {p : Policy} (h : p.multiplier.ExceedsOne) : p.Rises :=
  Duration.lasts_of_exceedsOne h _

theorem rises_of_lt {p : Policy}
    (h : Nat.min p.initial.nanos p.maximum.nanos < 2 ^ 23 * nanosPerSecond) : p.Rises := by
  refine Duration.lasts_of_lt ?_ _
  rw [← Duration.nanos_min] at h
  exact Nat.div_lt_of_lt_mul (by rwa [Nat.mul_comm])

/-- **The bounds of a policy rise to its maximum, unless they are very long**: in every run that its
pauses can make, they start at the initial bound or at the maximum if it is shorter, do not exceed the
maximum, and are not exceeded by a pause.  They never fall, and stay at the maximum, if the first pause
does not shorten the bound; otherwise they never rise.  The first pause shortens the bound only if that
is `2 ^ 23` seconds at least and the multiplier is not larger than `1`. -/
theorem bounds_rise_unless_long (p : Policy) {log : List Drawn} {last : Backoff}
    (h : p.backoff.Draws log last) :
    (∀ drawn last, (∃ draws, p.backoff.pauses draws = .ok (drawn, last)) ↔
      ∃ log, p.backoff.Draws log last ∧ log.map (·.pause) = drawn) ∧
    (Backoff.bounds log last).head? = some (Nat.min p.initial.nanos p.maximum.nanos) ∧
    (∀ bound ∈ Backoff.bounds log last, bound ≤ p.maximum.nanos) ∧
    (∀ x ∈ log, x.pause.nanos ≤ x.bound.nanos) ∧
    (p.Rises → (Backoff.bounds log last).Pairwise fun earlier later =>
      earlier ≤ later ∧ (earlier = p.maximum.nanos → later = p.maximum.nanos)) ∧
    (¬ p.Rises → (Backoff.bounds log last).Pairwise (· ≥ ·) ∧
      (log ≠ [] → last.bound.nanos < p.backoff.bound.nanos)) ∧
    (p.multiplier.ExceedsOne ∨
      Nat.min p.initial.nanos p.maximum.nanos < 2 ^ 23 * nanosPerSecond → p.Rises) := by
  have hle : p.backoff.bound.nanos ≤ p.backoff.maximum.nanos := p.bound_backoffAfter_le 0
  have hmax := h.bounds_le hle
  refine ⟨fun _ _ => Backoff.exists_pauses_eq_ok_iff, ?_, hmax, h.pause_le, fun hrises => ?_,
    h.pairwise_ge hle, ?_⟩
  · rw [h.head?_bounds, ← Duration.nanos_min]
    rfl
  · refine (h.pairwise_le hle hrises).imp_of_mem fun _ hlater hstep => ⟨hstep, ?_⟩
    rintro rfl
    exact Nat.le_antisymm (hmax _ hlater) hstep
  · rintro (hx | hlt)
    · exact rises_of_exceedsOne hx
    · exact rises_of_lt hlt

/-- A bound that doubles from a tenth of a second up to half a second. -/
def brief : Policy := { initial := .ofMillis 100, maximum := .ofMillis 500 }

theorem brief_draws : brief.backoff.Draws
    [⟨.ofMillis 100, .ofMillis 30⟩, ⟨.ofMillis 200, .ofMillis 200⟩, ⟨.ofMillis 400, .zero⟩,
      ⟨.ofMillis 500, .ofMillis 500⟩] { brief.backoff with bound := .ofMillis 500 } := by
  have hfirst : brief.backoff.pause 30000000 =
      .ok (.ofMillis 30, { brief.backoff with bound := .ofMillis 200 }) := by decide +kernel
  have hsecond : ({ brief.backoff with bound := .ofMillis 200 } : Backoff).pause 900000000 =
      .ok (.ofMillis 200, { brief.backoff with bound := .ofMillis 400 }) := by decide +kernel
  have hthird : ({ brief.backoff with bound := .ofMillis 400 } : Backoff).pause 0 =
      .ok (.zero, { brief.backoff with bound := .ofMillis 500 }) := by decide +kernel
  have hlast : ({ brief.backoff with bound := .ofMillis 500 } : Backoff).pause 500000000 =
      .ok (.ofMillis 500, { brief.backoff with bound := .ofMillis 500 }) := by decide +kernel
  exact .next hfirst (.next hsecond (.next hthird (.next hlast (.none _))))

/-- Its bounds never fall, and no pause is longer than half a second. -/
theorem bounds_rise_unless_long_brief :
    (∃ log last, brief.backoff.Draws log last ∧
      Backoff.bounds log last = [100000000, 200000000, 400000000, 500000000, 500000000]) ∧
    ∀ log last, brief.backoff.Draws log last →
      (Backoff.bounds log last).Pairwise (· ≤ ·) ∧
      ∀ bound ∈ Backoff.bounds log last, bound ≤ 500000000 := by
  refine ⟨⟨_, _, brief_draws, by decide +kernel⟩, fun log last h => ?_⟩
  obtain ⟨-, -, hmax, -, hrises, -, hbrief⟩ := bounds_rise_unless_long brief h
  exact ⟨(hrises (hbrief (Or.inr (by decide +kernel)))).imp And.left, hmax⟩

/-- A maximum of `2 ^ 23` seconds and eight nanoseconds, which multiplied by `1` are seven. -/
def endless : Policy where
  initial := ⟨8388608000000008, by decide⟩
  maximum := ⟨8388608000000008, by decide⟩
  multiplier := .one

/-- The bound starts at the maximum and falls. -/
theorem endless_bound_falls :
    ¬ endless.Rises ∧ ∃ log last, endless.backoff.Draws log last ∧
      Backoff.bounds log last = [8388608000000008, 8388608000000007, 8388608000000007] := by
  have hfirst : endless.backoff.pause 0 =
      .ok (.zero, { endless.backoff with bound := .ofNanos 8388608000000007 }) := by decide +kernel
  have hsecond : ({ endless.backoff with bound := .ofNanos 8388608000000007 } : Backoff).pause 0 =
      .ok (.zero, { endless.backoff with bound := .ofNanos 8388608000000007 }) := by decide +kernel
  refine ⟨by decide +kernel, _, _, .next hfirst (.next hsecond (.none _)), ?_⟩
  decide +kernel

end Policy

end FsidRegistry.Retry

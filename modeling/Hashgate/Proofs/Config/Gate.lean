import Hashgate.Config.Gate

/-! # Settings of a gate

Settings are accepted if a challenge can be drawn under them and a result has any time at all.  The draws
then reach every number of bits from the least to the one below the complexity, and no other.  The clock
of the gate has no unit below the millisecond, so its patience is the wait rounded up.

* `validate_eq_ok_iff`, `exists_validate_eq_error` — which settings are accepted.
* `chooseBits_bounds`, `exists_chooseBits_eq` — which bits are drawn.
* `patience_bounds` — how long the gate waits.
-/

namespace Hashgate.GateConfig

variable {config : GateConfig}

/-! ## Acceptance -/

/-- Settings under which nothing can be issued: there are no bits to choose, or there is no time. -/
def Senseless (config : GateConfig) : Prop := config.complexity.toNat ≤ 10 ∨ config.wait = 0

instance (config : GateConfig) : Decidable config.Senseless :=
  inferInstanceAs (Decidable (_ ∨ _))

theorem fault?_eq_none_iff : config.fault? = none ↔ ¬ config.Senseless := by
  unfold fault? Senseless
  have low : config.complexity ≤ minBits ↔ config.complexity.toNat ≤ 10 := Iff.rfl
  split
  · next few => simp [low.mp few]
  · next enough =>
    split
    · next zero => simp [zero]
    · next positive => simp [positive, Nat.lt_of_not_le (mt low.mpr enough)]

theorem validate_eq_ok_iff : config.validate = .ok () ↔ ¬ config.Senseless := by
  rw [← fault?_eq_none_iff, validate]
  cases config.fault? <;> simp

theorem exists_validate_eq_error (senseless : config.Senseless) :
    ∃ why, config.validate = .error (.invalidConfig why) := by
  cases faulty : config.fault? with
  | none => exact absurd senseless (fault?_eq_none_iff.mp faulty)
  | some fault => exact ⟨fault.message, by rw [validate, faulty]; rfl⟩

/-! ## Bits -/

theorem bitsChoices_pos (sensible : ¬ config.Senseless) : 0 < config.bitsChoices := by
  have enough : ¬ config.complexity.toNat ≤ 10 := fun few => sensible (.inl few)
  change 0 < config.complexity.toNat - 10
  omega

theorem toNat_chooseBits (sensible : ¬ config.Senseless) (selector : Nat) :
    (config.chooseBits selector).toNat = 10 + selector % config.bitsChoices := by
  have chosen : selector % config.bitsChoices < config.complexity.toNat - 10 :=
    Nat.mod_lt _ (bitsChoices_pos sensible)
  have small := config.complexity.toNat_lt
  exact UInt32.toNat_ofNat_of_lt' (show 10 + selector % config.bitsChoices < 2 ^ 32 by omega)

theorem chooseBits_bounds (sensible : ¬ config.Senseless) (selector : Nat) :
    10 ≤ (config.chooseBits selector).toNat ∧
      (config.chooseBits selector).toNat < config.complexity.toNat := by
  have chosen : selector % config.bitsChoices < config.complexity.toNat - 10 :=
    Nat.mod_lt _ (bitsChoices_pos sensible)
  rw [toNat_chooseBits sensible]
  omega

/-- Every number of bits in the range is drawn by some selector. -/
theorem exists_chooseBits_eq {n : Nat} (least : 10 ≤ n) (less : n < config.complexity.toNat) :
    ∃ selector, (config.chooseBits selector).toNat = n := by
  have small := config.complexity.toNat_lt
  have choices : config.bitsChoices = config.complexity.toNat - 10 := rfl
  refine ⟨n - 10, ?_⟩
  change (UInt32.ofNat (10 + (n - 10) % config.bitsChoices)).toNat = n
  rw [Nat.mod_eq_of_lt (by omega), UInt32.toNat_ofNat_of_lt' (show 10 + (n - 10) < 2 ^ 32 by omega)]
  omega

/-! ## Time -/

/-- The patience is the least number of milliseconds that is no less than the wait. -/
theorem patience_bounds (config : GateConfig) :
    config.wait ≤ config.patience * 1000000 ∧ config.patience * 1000000 < config.wait + 1000000 := by
  change config.wait ≤ (config.wait + 999999) / 1000000 * 1000000 ∧
    (config.wait + 999999) / 1000000 * 1000000 < config.wait + 1000000
  omega

end Hashgate.GateConfig

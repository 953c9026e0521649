import Hashgate.Config.Server
import Hashgate.Gate.Basic
import Hashgate.Proofs.Config.Gate
import Hashgate.Proofs.Text.Decimal

/-! # Settings of the server

The settings of a server are read from four names, and their first fault is told: a number that cannot be
read, then an address that is missing, then a gate that could not issue anything or would not wait.  What is
accepted is enough for a gate, so once a server has its settings its gate never refuses them.

* `Lookup.Sets`, `Lookup.Garbles` — what a name makes of a setting.
* `ServerConfig.Configured` — all that can come of reading the settings.
* `ServerConfig.configured_ofLookup`, `ServerConfig.Configured.ofLookup_eq` — one of these comes of it, and no
  other.
* `ServerConfig.Gated`, `ServerConfig.gated` — the gate of accepted settings.
* `ServerConfig.ofLookup_decides` — all of this.
-/

namespace Hashgate

/-! ## Settings by name -/

namespace Lookup

variable {α ε : Type} {lookup : Lookup} {name text : String} {Spells : String → α → Prop} {a b default : α}

/-- The value of a setting: what the text of its name spells, or the default if there is no text. -/
inductive Sets (lookup : Lookup) (name : String) (Spells : String → α → Prop) (default : α) : α → Prop
  | unset : lookup name = none → Sets lookup name Spells default default
  | spelled {text : String} {a : α} : lookup name = some text → Spells text a →
      Sets lookup name Spells default a

/-- The text of a name spells nothing. -/
def Garbles (lookup : Lookup) (name : String) (Spells : String → α → Prop) (text : String) : Prop :=
  lookup name = some text ∧ ∀ a, ¬ Spells text a

theorem Sets.unique (unique : ∀ text a b, Spells text a → Spells text b → a = b)
    (setsA : lookup.Sets name Spells default a) (setsB : lookup.Sets name Spells default b) : a = b := by
  cases setsA with
  | unset missing =>
    cases setsB with
    | unset => rfl
    | spelled found _ => cases missing.symm.trans found
  | spelled found spellsA =>
    cases setsB with
    | unset missing => cases missing.symm.trans found
    | spelled same spellsB =>
      cases found.symm.trans same
      exact unique _ _ _ spellsA spellsB

theorem Garbles.not_sets (garbles : lookup.Garbles name Spells text) :
    ¬ lookup.Sets name Spells default a := by
  intro sets
  cases sets with
  | unset missing => cases missing.symm.trans garbles.1
  | spelled found spells =>
    cases found.symm.trans garbles.1
    exact garbles.2 _ spells

theorem Garbles.text_eq {other : String} (garbles : lookup.Garbles name Spells text)
    (others : lookup.Garbles name Spells other) : text = other :=
  Option.some.inj (garbles.1.symm.trans others.1)

/-- A setting has a value of some sort exactly if its text spells one, where the default is one. -/
theorem exists_sets_iff {P : α → Prop} (standard : P default) :
    (∃ a, lookup.Sets name Spells default a ∧ P a) ↔
      ∀ text, lookup name = some text → ∃ a, Spells text a ∧ P a := by
  constructor
  · rintro ⟨a, sets, holds⟩ text found
    cases sets with
    | unset missing => cases missing.symm.trans found
    | spelled same spells =>
      cases found.symm.trans same
      exact ⟨a, spells, holds⟩
  · intro readable
    cases told : lookup name with
    | none => exact ⟨default, .unset told, standard⟩
    | some text =>
      obtain ⟨a, spells, holds⟩ := readable text told
      exact ⟨a, .spelled told spells, holds⟩

theorem sets_text (lookup : Lookup) (name default : String) :
    lookup.Sets name Eq default (lookup.text name default) := by
  cases told : lookup name with
  | none =>
    rw [text, told]
    exact .unset told
  | some text =>
    rw [Lookup.text, told]
    exact .spelled told rfl

/-- A reader that reads exactly what is spelled gives the value of a setting, or says which text spells
nothing. -/
theorem read_cases {reader : List Char → Except ε α}
    (exact : ∀ text a, reader text.toList = .ok a ↔ Spells text a) (lookup : Lookup) (name : String)
    (default : α) :
    (∃ a, lookup.read name reader default = .ok a ∧ lookup.Sets name Spells default a) ∨
      ∃ text, lookup.read name reader default = .error (.unreadable name text) ∧
        lookup.Garbles name Spells text := by
  unfold read
  cases told : lookup name with
  | none => exact .inl ⟨default, rfl, .unset told⟩
  | some text =>
    cases reads : reader text.toList with
    | ok a => exact .inl ⟨a, by simp only [reads], .spelled told ((exact text a).mp reads)⟩
    | error cause =>
      refine .inr ⟨text, by simp only [reads], told, fun a spells => ?_⟩
      rw [(exact text a).mpr spells] at reads
      cases reads

end Lookup

namespace ServerConfig

variable {lookup other : Lookup} {config : ServerConfig} {result : Except SettingsFault ServerConfig}

/-! ## What can come of reading -/

def SpellsUInt32 (text : String) (n : UInt32) : Prop := Decimal.SpellsNat text.toList n.toNat

def SpellsUInt64 (text : String) (n : UInt64) : Prop := Decimal.SpellsNat text.toList n.toNat

/-- Each setting has the value of its name. -/
structure Reads (lookup : Lookup) (config : ServerConfig) : Prop where
  logLevel : lookup.Sets "LOG_LEVEL" Eq standard.logLevel config.logLevel
  address : lookup.Sets "TCP_ADDR" Eq standard.address config.address
  complexity : lookup.Sets "COMPLEXITY" SpellsUInt32 standard.complexity config.complexity
  waitMillis : lookup.Sets "WAIT_POW_MS" SpellsUInt64 standard.waitMillis config.waitMillis

/-- The settings, or the first fault. -/
inductive Configured (lookup : Lookup) : Except SettingsFault ServerConfig → Prop
  | complexityGarbled {text : String} : lookup.Garbles "COMPLEXITY" SpellsUInt32 text →
      Configured lookup (.error (.unreadable "COMPLEXITY" text))
  | waitGarbled {complexity : UInt32} {text : String} :
      lookup.Sets "COMPLEXITY" SpellsUInt32 standard.complexity complexity →
      lookup.Garbles "WAIT_POW_MS" SpellsUInt64 text →
      Configured lookup (.error (.unreadable "WAIT_POW_MS" text))
  | noAddress {config : ServerConfig} : Reads lookup config → config.address = "" →
      Configured lookup (.error (.senseless "TCP_ADDR cannot be empty"))
  | lowComplexity {config : ServerConfig} : Reads lookup config → config.address ≠ "" →
      config.complexity.toNat ≤ 10 →
      Configured lookup (.error (.senseless ("invalid configuration: complexity must be greater than 10, got "
        ++ toString config.complexity.toNat)))
  | zeroWait {config : ServerConfig} : Reads lookup config → config.address ≠ "" →
      10 < config.complexity.toNat → config.waitMillis = 0 →
      Configured lookup
        (.error (.senseless "invalid configuration: PoW wait duration must be positive"))
  | accepted {config : ServerConfig} : Reads lookup config → config.address ≠ "" →
      10 < config.complexity.toNat → config.waitMillis ≠ 0 → Configured lookup (.ok config)

theorem Reads.unique {config other : ServerConfig} (reads : Reads lookup config)
    (readsOther : Reads lookup other) : config = other := by
  have texts (text a b : String) (same : text = a) (equal : text = b) : a = b := same.symm.trans equal
  have words (text : String) (a b : UInt32) (spellsA : SpellsUInt32 text a) (spellsB : SpellsUInt32 text b) :
      a = b := UInt32.toNat_inj.mp (spellsA.unique spellsB)
  have longWords (text : String) (a b : UInt64) (spellsA : SpellsUInt64 text a)
      (spellsB : SpellsUInt64 text b) : a = b := UInt64.toNat_inj.mp (spellsA.unique spellsB)
  have logLevel := reads.logLevel.unique texts readsOther.logLevel
  have address := reads.address.unique texts readsOther.address
  have complexity := reads.complexity.unique words readsOther.complexity
  have waitMillis := reads.waitMillis.unique longWords readsOther.waitMillis
  cases config
  cases other
  cases logLevel
  cases address
  cases complexity
  cases waitMillis
  rfl

/-! ## Validation -/

theorem wait_gate_eq_zero_iff : config.gate.wait = 0 ↔ config.waitMillis = 0 := by
  change config.waitMillis.toNat * 1000000 = 0 ↔ _
  rw [← UInt64.toNat_inj, UInt64.toNat_zero]
  omega

/-- The address is looked at before the gate. -/
theorem validate_eq (config : ServerConfig) :
    config.validate =
      if config.address = "" then .error (.senseless "TCP_ADDR cannot be empty")
      else if config.complexity.toNat ≤ 10 then
        .error (.senseless ("invalid configuration: complexity must be greater than 10, got "
          ++ toString config.complexity.toNat))
      else if config.waitMillis = 0 then
        .error (.senseless "invalid configuration: PoW wait duration must be positive")
      else .ok () := by
  have low : config.gate.complexity ≤ GateConfig.minBits ↔ config.complexity.toNat ≤ 10 := Iff.rfl
  unfold validate GateConfig.validate GateConfig.fault?
  simp only [String.isEmpty_iff, low, wait_gate_eq_zero_iff]
  by_cases few : config.complexity.toNat ≤ 10
  · simp only [if_pos few]
    rfl
  · by_cases noWait : config.waitMillis = 0
    · simp only [if_neg few, if_pos noWait]
      rfl
    · simp only [if_neg few, if_neg noWait]
      rfl

theorem configured_validate (reads : Reads lookup config) :
    Configured lookup (config.validate.map fun _ => config) := by
  rw [validate_eq]
  split
  · next noAddress => exact .noAddress reads noAddress
  · next address =>
    split
    · next few => exact .lowComplexity reads address few
    · next enough =>
      split
      · next noWait => exact .zeroWait reads address (Nat.lt_of_not_le enough) noWait
      · next wait => exact .accepted reads address (Nat.lt_of_not_le enough) wait

/-! ## Reading -/

theorem read_complexity_cases (lookup : Lookup) :
    (∃ n, lookup.read "COMPLEXITY" Decimal.readUInt32 standard.complexity = .ok n ∧
      lookup.Sets "COMPLEXITY" SpellsUInt32 standard.complexity n) ∨
    ∃ text, lookup.read "COMPLEXITY" Decimal.readUInt32 standard.complexity =
        .error (.unreadable "COMPLEXITY" text) ∧ lookup.Garbles "COMPLEXITY" SpellsUInt32 text :=
  Lookup.read_cases (fun text _ => Decimal.readUInt32_eq_ok_iff text.toList) lookup _ _

theorem read_waitMillis_cases (lookup : Lookup) :
    (∃ n, lookup.read "WAIT_POW_MS" Decimal.readUInt64 standard.waitMillis = .ok n ∧
      lookup.Sets "WAIT_POW_MS" SpellsUInt64 standard.waitMillis n) ∨
    ∃ text, lookup.read "WAIT_POW_MS" Decimal.readUInt64 standard.waitMillis =
        .error (.unreadable "WAIT_POW_MS" text) ∧ lookup.Garbles "WAIT_POW_MS" SpellsUInt64 text :=
  Lookup.read_cases (fun text _ => Decimal.readUInt64_eq_ok_iff text.toList) lookup _ _

/-- What is read is validated, or the first number that cannot be read is told. -/
theorem ofLookup_cases (lookup : Lookup) :
    (∃ text, lookup.Garbles "COMPLEXITY" SpellsUInt32 text ∧
      ofLookup lookup = .error (.unreadable "COMPLEXITY" text)) ∨
    (∃ n text, lookup.Sets "COMPLEXITY" SpellsUInt32 standard.complexity n ∧
      lookup.Garbles "WAIT_POW_MS" SpellsUInt64 text ∧
      ofLookup lookup = .error (.unreadable "WAIT_POW_MS" text)) ∨
    ∃ config, Reads lookup config ∧ ofLookup lookup = config.validate.map fun _ => config := by
  obtain ⟨complexity, read, setsComplexity⟩ | ⟨text, read, garbles⟩ := read_complexity_cases lookup
  · obtain ⟨waitMillis, readWait, setsWait⟩ | ⟨text, readWait, garbles⟩ := read_waitMillis_cases lookup
    · have reads : Reads lookup ⟨lookup.text "LOG_LEVEL" standard.logLevel,
          lookup.text "TCP_ADDR" standard.address, complexity, waitMillis⟩ :=
        ⟨lookup.sets_text _ _, lookup.sets_text _ _, setsComplexity, setsWait⟩
      refine .inr (.inr ⟨_, reads, ?_⟩)
      rw [ofLookup, read, readWait]
      rfl
    · refine .inr (.inl ⟨complexity, text, setsComplexity, garbles, ?_⟩)
      rw [ofLookup, read, readWait]
      rfl
  · refine .inl ⟨text, garbles, ?_⟩
    rw [ofLookup, read]
    rfl

theorem configured_ofLookup (lookup : Lookup) : Configured lookup (ofLookup lookup) := by
  obtain ⟨text, garbles, fails⟩ | ⟨n, text, sets, garbles, fails⟩ | ⟨config, reads, comesTo⟩ :=
    ofLookup_cases lookup
  · rw [fails]
    exact .complexityGarbled garbles
  · rw [fails]
    exact .waitGarbled sets garbles
  · rw [comesTo]
    exact configured_validate reads

theorem Reads.ofLookup_eq (reads : Reads lookup config) :
    ofLookup lookup = config.validate.map fun _ => config := by
  obtain ⟨text, garbles, -⟩ | ⟨n, text, -, garbles, -⟩ | ⟨other, readsOther, comesTo⟩ :=
    ofLookup_cases lookup
  · exact absurd reads.complexity garbles.not_sets
  · exact absurd reads.waitMillis garbles.not_sets
  · rw [comesTo, reads.unique readsOther]

/-- Only one thing can come of reading. -/
theorem Configured.ofLookup_eq (configured : Configured lookup result) : ofLookup lookup = result := by
  cases configured with
  | complexityGarbled garbles =>
    obtain ⟨text, others, fails⟩ | ⟨n, text, sets, -, -⟩ | ⟨other, reads, -⟩ := ofLookup_cases lookup
    · rw [fails, garbles.text_eq others]
    · exact absurd sets garbles.not_sets
    · exact absurd reads.complexity garbles.not_sets
  | waitGarbled sets garbles =>
    obtain ⟨text, others, -⟩ | ⟨n, text, -, others, fails⟩ | ⟨other, reads, -⟩ := ofLookup_cases lookup
    · exact absurd sets others.not_sets
    · rw [fails, garbles.text_eq others]
    · exact absurd reads.waitMillis garbles.not_sets
  | noAddress reads noAddress =>
    rw [reads.ofLookup_eq, validate_eq, if_pos noAddress]
    rfl
  | lowComplexity reads address few =>
    rw [reads.ofLookup_eq, validate_eq, if_neg address, if_pos few]
    rfl
  | zeroWait reads address enough noWait =>
    rw [reads.ofLookup_eq, validate_eq, if_neg address, if_neg (Nat.not_le.mpr enough), if_pos noWait]
    rfl
  | accepted reads address enough wait =>
    rw [reads.ofLookup_eq, validate_eq, if_neg address, if_neg (Nat.not_le.mpr enough), if_neg wait]
    rfl

theorem ofLookup_eq_iff : ofLookup lookup = result ↔ Configured lookup result :=
  ⟨fun same => same ▸ configured_ofLookup lookup, Configured.ofLookup_eq⟩

theorem ofLookup_eq_ok_iff : ofLookup lookup = .ok config ↔
    Reads lookup config ∧ config.address ≠ "" ∧ 10 < config.complexity.toNat ∧ config.waitMillis ≠ 0 := by
  rw [ofLookup_eq_iff]
  constructor
  · rintro ⟨⟩
    next reads address enough wait => exact ⟨reads, address, enough, wait⟩
  · rintro ⟨reads, address, enough, wait⟩
    exact .accepted reads address enough wait

/-- The settings are accepted if each of them is. -/
theorem exists_ofLookup_eq_ok_iff : (∃ config, ofLookup lookup = .ok config) ↔
    (∃ n, lookup.Sets "COMPLEXITY" SpellsUInt32 standard.complexity n ∧ 10 < n.toNat) ∧
    (∃ n, lookup.Sets "WAIT_POW_MS" SpellsUInt64 standard.waitMillis n ∧ 0 < n.toNat) ∧
    ∃ text, lookup.Sets "TCP_ADDR" Eq standard.address text ∧ text ≠ "" := by
  have positive (n : UInt64) : n ≠ 0 ↔ 0 < n.toNat := by
    rw [Nat.pos_iff_ne_zero, Ne, ← UInt64.toNat_inj, UInt64.toNat_zero]
  simp only [ofLookup_eq_ok_iff, positive]
  constructor
  · rintro ⟨config, reads, address, enough, wait⟩
    exact ⟨⟨_, reads.complexity, enough⟩, ⟨_, reads.waitMillis, wait⟩, _, reads.address, address⟩
  · rintro ⟨⟨complexity, setsComplexity, enough⟩, ⟨waitMillis, setsWait, wait⟩, text, setsText, address⟩
    have reads : Reads lookup ⟨lookup.text "LOG_LEVEL" standard.logLevel, text, complexity, waitMillis⟩ :=
      ⟨lookup.sets_text _ _, setsText, setsComplexity, setsWait⟩
    exact ⟨_, reads, address, enough, wait⟩

/-- No other name has a part in the settings. -/
theorem ofLookup_congr (agree : ∀ name ∈ ["LOG_LEVEL", "TCP_ADDR", "COMPLEXITY", "WAIT_POW_MS"],
    lookup name = other name) : ofLookup lookup = ofLookup other := by
  simp only [List.forall_mem_cons] at agree
  obtain ⟨logLevel, address, complexity, waitMillis, -⟩ := agree
  simp only [ofLookup, Lookup.text, Lookup.read, logLevel, address, complexity, waitMillis]

/-! ## The gate -/

theorem gate_sensible (accepted : ofLookup lookup = .ok config) : ¬ config.gate.Senseless := by
  obtain ⟨-, -, enough, wait⟩ := ofLookup_eq_ok_iff.mp accepted
  rintro (few | zero)
  · exact Nat.not_le.mpr enough few
  · exact wait (wait_gate_eq_zero_iff.mp zero)

/-- The wait goes to the gate in nanoseconds and comes back in milliseconds as it was. -/
theorem waitMillis_gate (config : ServerConfig) : config.gate.waitMillis = config.waitMillis := by
  have fits : config.waitMillis.toNat < UInt64.size := config.waitMillis.toNat_lt_size
  have whole : config.gate.wait / 1000000 = config.waitMillis.toNat :=
    Nat.mul_div_cancel _ (by decide)
  change UInt64.ofNat (min (config.gate.wait / 1000000) (UInt64.size - 1)) = config.waitMillis
  rw [whole, Nat.min_eq_left (by omega), UInt64.ofNat_toNat]

/-- What the gate of accepted settings can be relied on for. -/
structure Gated (config : ServerConfig) : Prop where
  /-- A gate can be made of it. -/
  makes : ∀ generate verify draw,
    Gate.make? config.gate generate verify draw = .ok ⟨config.gate, generate, verify, draw⟩
  /-- A challenge is issued unless the generator fails, and then the failure is the generator's own. -/
  fails_iff : ∀ draw generate error, config.gate.issue draw generate = .error error ↔
    generate (config.gate.chooseBits draw.bits) draw.token.text = .error error
  /-- A challenge that is minted is issued. -/
  issues : ∀ draw (mint : Mint), ∃ issued, config.gate.issue draw mint.generator = .ok issued
  waitMillis_eq : config.gate.waitMillis = config.waitMillis

theorem gated (accepted : ofLookup lookup = .ok config) : Gated config := by
  have valid : config.gate.validate = .ok () :=
    GateConfig.validate_eq_ok_iff.mpr (gate_sensible accepted)
  refine ⟨fun generate verify draw => ?_, fun draw generate error => ?_, fun draw mint => ?_,
    waitMillis_gate config⟩
  · rw [Gate.make?, valid]
    rfl
  · rw [GateConfig.issue, valid]
    change (do
      let header ← generate (config.gate.chooseBits draw.bits) draw.token.text
      pure ⟨header, _, _⟩ : Except GateError Issued) = .error error ↔ _
    cases generate (config.gate.chooseBits draw.bits) draw.token.text with
    | error cause =>
      constructor
      · rintro ⟨⟩
        rfl
      · rintro ⟨⟩
        rfl
    | ok header => exact iff_of_false nofun nofun
  · rw [GateConfig.issue, valid]
    exact ⟨_, rfl⟩

/-- **Settings that are accepted make a gate that works.**  The settings are those of four names, and they
are accepted exactly if the numbers can be read and the address, the bits and the wait are there.  Of all
that is wrong the first is told.  The gate of accepted settings can be made, it never refuses them when it
issues a challenge, and it waits as long as they say. -/
theorem ofLookup_decides (lookup : Lookup) :
    standard = ⟨"info", "0.0.0.0:8080", 30, 60000⟩ ∧
    (∀ other : Lookup, (∀ name ∈ ["LOG_LEVEL", "TCP_ADDR", "COMPLEXITY", "WAIT_POW_MS"],
      lookup name = other name) → ofLookup lookup = ofLookup other) ∧
    ((∃ config, ofLookup lookup = .ok config) ↔
      (∀ text, lookup "COMPLEXITY" = some text →
        ∃ n : UInt32, Decimal.SpellsNat text.toList n.toNat ∧ 10 < n.toNat) ∧
      (∀ text, lookup "WAIT_POW_MS" = some text →
        ∃ n : UInt64, Decimal.SpellsNat text.toList n.toNat ∧ 0 < n.toNat) ∧
      lookup "TCP_ADDR" ≠ some "") ∧
    (∀ result, ofLookup lookup = result ↔ Configured lookup result) ∧
    (∀ config, ofLookup lookup = .ok config → Gated config) ∧
    ∀ config : ServerConfig, config.gate.waitMillis = config.waitMillis := by
  refine ⟨rfl, fun other => ofLookup_congr, ?_, fun _ => ofLookup_eq_iff, fun _ => gated, waitMillis_gate⟩
  rw [exists_ofLookup_eq_ok_iff, Lookup.exists_sets_iff (P := fun n : UInt32 => 10 < n.toNat) (by decide),
    Lookup.exists_sets_iff (P := fun n : UInt64 => 0 < n.toNat) (by decide),
    Lookup.exists_sets_iff (P := fun text : String => text ≠ "") (by decide)]
  have address : (∀ text, lookup "TCP_ADDR" = some text → ∃ a, text = a ∧ a ≠ "") ↔
      lookup "TCP_ADDR" ≠ some "" := by
    simp only [exists_eq_left']
    exact ⟨fun filled blank => filled "" blank rfl, fun notBlank text found empty => notBlank (empty ▸ found)⟩
  rw [address]
  exact Iff.rfl

/-- Numbers in the longest and the shortest spelling, and a name that means nothing. -/
def patient : Lookup := fun name =>
  [("COMPLEXITY", "+0011"), ("WAIT_POW_MS", "18446744073709551615"), ("PATH", "/bin")].lookup name

/-- The same without the name that means nothing. -/
def plain : Lookup := fun name =>
  [("WAIT_POW_MS", "18446744073709551615"), ("COMPLEXITY", "+0011")].lookup name

/-- Everything is wrong at once. -/
def hopeless : Lookup := fun name =>
  [("COMPLEXITY", "4294967296"), ("WAIT_POW_MS", "-1"), ("TCP_ADDR", "")].lookup name

/-- The longest wait and the fewest choices make a gate, and of three faults the first is told. -/
theorem ofLookup_decides_patient :
    ofLookup patient = .ok ⟨"info", "0.0.0.0:8080", 11, 18446744073709551615⟩ ∧
    ofLookup patient = ofLookup plain ∧
    Gated ⟨"info", "0.0.0.0:8080", 11, 18446744073709551615⟩ ∧
    Configured hopeless (.error (.unreadable "COMPLEXITY" "4294967296")) ∧
    ¬ ∃ config, ofLookup hopeless = .ok config := by
  obtain ⟨-, agrees, -, -, gates, -⟩ := ofLookup_decides patient
  obtain ⟨-, -, -, configures, -, -⟩ := ofLookup_decides hopeless
  have accepted : ofLookup patient = .ok ⟨"info", "0.0.0.0:8080", 11, 18446744073709551615⟩ := rfl
  have refused : ofLookup hopeless = .error (.unreadable "COMPLEXITY" "4294967296") := rfl
  refine ⟨accepted, agrees plain (by decide), gates _ accepted, (configures _).mp refused, ?_⟩
  rintro ⟨config, accepted⟩
  rw [refused] at accepted
  cases accepted

end ServerConfig

end Hashgate

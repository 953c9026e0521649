import Hashgate.Base64
import Hashgate.Proofs.Text.Utf8

/-! # Canonical base64

Reading undoes writing, and there is nothing else to read: a text that has a value is the one text
that is written for it.  Groups of four characters are compared with groups of three octets, and the
last group with its padding is taken apart once, in `readEnd_eq_ok`.

* `decode_eq_ok_iff` — the reader accepts exactly what is written.
* `colon_not_mem_encode` — what is written holds no colon.
-/

namespace Hashgate.Base64

/-! ## Symbols -/

def symbolOctet (v : Nat) : UInt8 := UInt8.ofNat (symbol v).toNat

theorem symbol_ascii : ∀ v < 64, (symbol v).toNat < 0x80 := by decide

theorem colon_ne_symbol : ∀ v < 64, ':' ≠ symbol v := by decide

theorem value?_symbolOctet : ∀ v < 64, value? (symbolOctet v) = some v := by decide

theorem symbolOctet_ne_pad : ∀ v < 64, symbolOctet v ≠ pad := by decide

/-- Only the octet of a symbol has the symbol's number. -/
theorem eq_symbolOctet_of_value? {octet : UInt8} {v : Nat} (same : value? octet = some v) :
    v < 64 ∧ octet = symbolOctet v := by
  have all : ∀ n < 256, ∀ v ∈ value? (UInt8.ofNat n), v < 64 ∧ UInt8.ofNat n = symbolOctet v := by
    decide +kernel
  have here := all octet.toNat octet.toNat_lt v
  rw [UInt8.ofNat_toNat] at here
  exact here same

theorem readSymbol_symbolOctet {v : Nat} (small : v < 64) (offset : Nat) :
    readSymbol offset (symbolOctet v) = .ok v := by
  simp [readSymbol, value?_symbolOctet v small]

theorem readSymbol_eq_ok {offset : Nat} {octet : UInt8} {v : Nat}
    (read : readSymbol offset octet = .ok v) : v < 64 ∧ octet = symbolOctet v := by
  unfold readSymbol at read
  split at read
  · next same =>
    cases read
    exact eq_symbolOctet_of_value? same
  · cases read

/-! ## Octets of a text -/

theorem octets_cons_symbol {v : Nat} (small : v < 64) (rest : List Char) :
    Utf8.encode (symbol v :: rest) = symbolOctet v :: Utf8.encode rest := by
  rw [Utf8.encode_cons_ascii (symbol_ascii v small)]
  rfl

theorem octets_cons_pad (rest : List Char) : Utf8.encode ('=' :: rest) = pad :: Utf8.encode rest :=
  Utf8.encode_cons_ascii (by decide) rest

/-! ## Groups -/

/-- Four numbers make three octets, which are written as the symbols of these numbers. -/
theorem encode_join_append {a b c d : Nat} (ha : a < 64) (hb : b < 64) (hc : c < 64) (hd : d < 64)
    (more : List UInt8) :
    encode (join [a, b, c, d] ++ more) =
      symbol a :: symbol b :: symbol c :: symbol d :: encode more := by
  simp only [join, List.cons_append, List.nil_append, encode]
  rw [Utf8.toNat_octet (by omega), Utf8.toNat_octet (by omega), Utf8.toNat_octet (by omega)]
  have first : (a * 4 + b / 16) / 4 = a := by omega
  have second : (a * 4 + b / 16) % 4 * 16 + (b % 16 * 16 + c / 4) / 16 = b := by omega
  have third : (b % 16 * 16 + c / 4) % 16 * 4 + (c % 4 * 64 + d) / 64 = c := by omega
  have fourth : (c % 4 * 64 + d) % 64 = d := by omega
  rw [first, second, third, fourth]

theorem encode_join_three {a b c : Nat} (ha : a < 64) (hb : b < 64) (hc : c < 64)
    (spare : c % 4 = 0) : encode (join [a, b, c]) = [symbol a, symbol b, symbol c, '='] := by
  simp only [join, encode]
  rw [Utf8.toNat_octet (by omega), Utf8.toNat_octet (by omega)]
  have first : (a * 4 + b / 16) / 4 = a := by omega
  have second : (a * 4 + b / 16) % 4 * 16 + (b % 16 * 16 + c / 4) / 16 = b := by omega
  have third : (b % 16 * 16 + c / 4) % 16 * 4 = c := by omega
  rw [first, second, third]

theorem encode_join_two {a b : Nat} (ha : a < 64) (hb : b < 64) (spare : b % 16 = 0) :
    encode (join [a, b]) = [symbol a, symbol b, '=', '='] := by
  simp only [join, encode]
  rw [Utf8.toNat_octet (by omega)]
  have first : (a * 4 + b / 16) / 4 = a := by omega
  have second : (a * 4 + b / 16) % 4 * 16 = b := by omega
  rw [first, second]

theorem octets_join_append {a b c d : Nat} (ha : a < 64) (hb : b < 64) (hc : c < 64) (hd : d < 64)
    (more : List UInt8) :
    Utf8.encode (encode (join [a, b, c, d] ++ more)) =
      symbolOctet a :: symbolOctet b :: symbolOctet c :: symbolOctet d :: Utf8.encode (encode more) := by
  rw [encode_join_append ha hb hc hd, octets_cons_symbol ha, octets_cons_symbol hb,
    octets_cons_symbol hc, octets_cons_symbol hd]

theorem octets_join_three {a b c : Nat} (ha : a < 64) (hb : b < 64) (hc : c < 64)
    (spare : c % 4 = 0) :
    Utf8.encode (encode (join [a, b, c])) = [symbolOctet a, symbolOctet b, symbolOctet c, pad] := by
  rw [encode_join_three ha hb hc spare, octets_cons_symbol ha, octets_cons_symbol hb,
    octets_cons_symbol hc, octets_cons_pad]
  rfl

theorem octets_join_two {a b : Nat} (ha : a < 64) (hb : b < 64) (spare : b % 16 = 0) :
    Utf8.encode (encode (join [a, b])) = [symbolOctet a, symbolOctet b, pad, pad] := by
  rw [encode_join_two ha hb spare, octets_cons_symbol ha, octets_cons_symbol hb, octets_cons_pad,
    octets_cons_pad]
  rfl

/-! ## The last group -/

/-- A last group is symbols and then padding, and padding comes after two symbols at least. -/
theorem readEnd_eq_ok {offset read pads count : Nat} {group : List UInt8} {symbols : List Nat}
    (done : readEnd offset read pads group = .ok (symbols, count)) :
    ∃ more, group = symbols.map symbolOctet ++ List.replicate more pad ∧ count = pads + more ∧
      (∀ v ∈ symbols, v < 64) ∧ (symbols ≠ [] → pads = 0) ∧
      (0 < more → 2 ≤ read + symbols.length) := by
  induction group generalizing read pads symbols count with
  | nil =>
    cases done
    exact ⟨0, by simp⟩
  | cons octet rest ih =>
    unfold readEnd at done
    split at done
    · next padded =>
      split at done
      · cases done
      · obtain ⟨more, rfl, rfl, small, unpadded, enough⟩ := ih done
        -- No symbol follows padding: with a symbol the padding before it would be at fault.
        have noSymbols : symbols = [] := by
          by_cases empty : symbols = []
          · exact empty
          · have := unpadded empty
            omega
        subst noSymbols
        refine ⟨more + 1, ?_, by omega, small, by simp, fun _ => by simp; omega⟩
        rw [padded, List.map_nil, List.nil_append, List.nil_append, List.replicate_succ]
    · split at done
      · cases done
      · next noPads =>
        obtain ⟨v, symbolRead, done⟩ := bind_eq_ok_iff.mp done
        obtain ⟨⟨later, total⟩, restRead, done⟩ := bind_eq_ok_iff.mp done
        cases done
        obtain ⟨small, rfl⟩ := readSymbol_eq_ok symbolRead
        obtain ⟨more, rfl, rfl, smaller, -, enough⟩ := ih restRead
        refine ⟨more, by simp, rfl, ?_, fun _ => by omega, fun positive => ?_⟩
        · exact List.forall_mem_cons.mpr ⟨small, smaller⟩
        · have := enough positive
          rw [List.length_cons]
          omega

theorem decodeEnd_eq {offset pads : Nat} {group : List UInt8} {symbols : List Nat}
    (ended : readEnd offset 0 0 group = .ok (symbols, pads)) :
    decodeEnd offset group =
      if group ≠ [] ∧ symbols.length < 2 then .error (.invalidLength (offset + symbols.length))
      else if (symbols.length + pads) % 4 ≠ 0 then .error .invalidPadding
      else if spareBits symbols ≠ 0 then
        .error (.invalidLastSymbol (offset + symbols.length - 1) (group.getD (symbols.length - 1) 0))
      else .ok (join symbols) := by
  simp only [decodeEnd, ended, bind, Except.bind, pure, Except.pure, throw, throwThe,
    MonadExceptOf.throw]

/-- A last group of at most four characters is what is written for its octets. -/
theorem eq_octets_of_decodeEnd {offset : Nat} {group octets : List UInt8} (short : group.length ≤ 4)
    (read : decodeEnd offset group = .ok octets) : group = Utf8.encode (encode octets) := by
  cases ended : readEnd offset 0 0 group with
  | error fault => simp [decodeEnd, ended, bind, Except.bind] at read
  | ok result =>
    obtain ⟨symbols, count⟩ := result
    rw [decodeEnd_eq ended] at read
    obtain ⟨more, rfl, rfl, small, -, enough⟩ := readEnd_eq_ok ended
    simp only [List.length_append, List.length_map, List.length_replicate] at short
    split at read
    · cases read
    next long =>
    split at read
    · cases read
    next full =>
    split at read
    · cases read
    next spare =>
    cases read
    -- Up to four characters in whole groups are two, three or four symbols and padding to match.
    match symbols, more with
    | [], 0 => rfl
    | [], more + 1 => simp at enough
    | [a], more => simp at long
    | [a, b], 2 =>
      rw [octets_join_two (small a (by simp)) (small b (by simp)) (by simpa [spareBits] using spare)]
      rfl
    | [a, b, c], 1 =>
      rw [octets_join_three (small a (by simp)) (small b (by simp)) (small c (by simp))
        (by simpa [spareBits] using spare)]
      rfl
    | [a, b, c, d], 0 =>
      have written := octets_join_append (small a (by simp)) (small b (by simp)) (small c (by simp))
        (small d (by simp)) []
      rw [List.append_nil] at written
      rw [written]
      rfl
    | [a, b], 0 | [a, b], 1 | [a, b], more + 3 | [a, b, c], 0 | [a, b, c], more + 2
    | [a, b, c, d], more + 1 | a :: b :: c :: d :: e :: rest, more =>
      simp only [List.length_cons, List.length_nil] at full short
      omega

theorem readEnd_pads (offset read pads more : Nat) (enough : 2 ≤ read) :
    readEnd offset read pads (List.replicate more pad) = .ok ([], pads + more) := by
  induction more generalizing pads with
  | zero => rfl
  | succ more ih =>
    rw [List.replicate_succ, readEnd, if_pos rfl, if_neg (by omega), ih, Nat.add_assoc,
      Nat.add_comm 1]

theorem readEnd_symbols {symbols : List Nat} (small : ∀ v ∈ symbols, v < 64) (offset read pads : Nat)
    (enough : 2 ≤ read + symbols.length) :
    readEnd offset read 0 (symbols.map symbolOctet ++ List.replicate pads pad) =
      .ok (symbols, pads) := by
  induction symbols generalizing read with
  | nil => simpa using readEnd_pads offset read 0 pads enough
  | cons v symbols ih =>
    obtain ⟨first, others⟩ := List.forall_mem_cons.mp small
    have later := ih others (read + 1) (by rw [List.length_cons] at enough; omega)
    rw [List.map_cons, List.cons_append, readEnd, if_neg (symbolOctet_ne_pad v first),
      if_neg (by omega), readSymbol_symbolOctet first, later]
    rfl

/-- A last group of symbols and padding is read as the octets of its symbols. -/
theorem decodeEnd_symbols {symbols : List Nat} {pads : Nat} (small : ∀ v ∈ symbols, v < 64)
    (offset : Nat) (enough : 2 ≤ symbols.length) (full : (symbols.length + pads) % 4 = 0)
    (spare : spareBits symbols = 0) :
    decodeEnd offset (symbols.map symbolOctet ++ List.replicate pads pad) = .ok (join symbols) := by
  rw [decodeEnd_eq (readEnd_symbols small offset 0 pads (by omega)), if_neg (by omega),
    if_neg (by omega), if_neg (by omega)]

/-! ## Whole texts -/

/-- Octets as groups of numbers below 64. -/
inductive Grouped : List UInt8 → Prop
  | none : Grouped []
  | two {a b : Nat} : a < 64 → b < 64 → b % 16 = 0 → Grouped (join [a, b])
  | three {a b c : Nat} : a < 64 → b < 64 → c < 64 → c % 4 = 0 → Grouped (join [a, b, c])
  | four {a b c d : Nat} {rest : List UInt8} :
      a < 64 → b < 64 → c < 64 → d < 64 → Grouped rest → Grouped (join [a, b, c, d] ++ rest)

/-- All octets fall into groups, six bits to a number. -/
theorem grouped : (octets : List UInt8) → Grouped octets
  | [] => .none
  | [x] => by
    have hx := x.toNat_lt
    have joined : join [x.toNat / 4, x.toNat % 4 * 16] = [x] := by
      simp only [join, List.cons.injEq, and_true, ← UInt8.toNat_inj]
      rw [Utf8.toNat_octet (by omega)]
      omega
    exact joined ▸ .two (by omega) (by omega) (by omega)
  | [x, y] => by
    have hx := x.toNat_lt
    have hy := y.toNat_lt
    have joined : join [x.toNat / 4, x.toNat % 4 * 16 + y.toNat / 16, y.toNat % 16 * 4] = [x, y] := by
      simp only [join, List.cons.injEq, and_true, ← UInt8.toNat_inj]
      constructor <;> rw [Utf8.toNat_octet (by omega)] <;> omega
    exact joined ▸ .three (by omega) (by omega) (by omega) (by omega)
  | x :: y :: z :: rest => by
    have hx := x.toNat_lt
    have hy := y.toNat_lt
    have hz := z.toNat_lt
    have joined : join [x.toNat / 4, x.toNat % 4 * 16 + y.toNat / 16, y.toNat % 16 * 4 + z.toNat / 64,
        z.toNat % 64] = [x, y, z] := by
      simp only [join, List.cons.injEq, and_true, ← UInt8.toNat_inj]
      refine ⟨?_, ?_, ?_⟩ <;> rw [Utf8.toNat_octet (by omega)] <;> omega
    have shape : x :: y :: z :: rest = [x, y, z] ++ rest := rfl
    rw [shape, ← joined]
    exact .four (by omega) (by omega) (by omega) (by omega) (grouped rest)

theorem length_octets_mod_four (octets : List UInt8) :
    (Utf8.encode (encode octets)).length % 4 = 0 := by
  induction grouped octets with
  | none => rfl
  | two ha hb spare => simp [octets_join_two ha hb spare]
  | three ha hb hc spare => simp [octets_join_three ha hb hc spare]
  | four ha hb hc hd _ ih =>
    rw [octets_join_append ha hb hc hd]
    simp only [List.length_cons]
    omega

theorem decodeFrom_octets (octets : List UInt8) (offset : Nat) :
    decodeFrom offset (Utf8.encode (encode octets)) = .ok octets := by
  induction grouped octets generalizing offset with
  | none => rfl
  | @two a b ha hb spare =>
    rw [octets_join_two ha hb spare]
    exact @decodeEnd_symbols [a, b] 2 (by simp [ha, hb]) offset (by simp) (by simp) spare
  | @three a b c ha hb hc spare =>
    rw [octets_join_three ha hb hc spare]
    exact @decodeEnd_symbols [a, b, c] 1 (by simp [ha, hb, hc]) offset (by simp) (by simp) spare
  | @four a b c d rest ha hb hc hd _ ih =>
    have later := ih (offset + 4)
    rw [octets_join_append ha hb hc hd]
    -- Four characters are read as a last group if nothing follows, and as a full one otherwise.
    cases written : Utf8.encode (encode rest) with
    | nil =>
      rw [written] at later
      cases later
      exact @decodeEnd_symbols [a, b, c, d] 0 (by simp [ha, hb, hc, hd]) offset (by simp) (by simp) rfl
    | cons first others =>
      rw [written] at later
      rw [decodeFrom, if_neg (by simp), readSymbol_symbolOctet ha, readSymbol_symbolOctet hb,
        readSymbol_symbolOctet hc, readSymbol_symbolOctet hd, later]
      rfl

theorem eq_octets_of_decodeFrom {offset : Nat} {text octets : List UInt8}
    (read : decodeFrom offset text = .ok octets) : text = Utf8.encode (encode octets) := by
  fun_induction decodeFrom offset text generalizing octets with
  | case1 offset a b c d rest last =>
    rw [List.isEmpty_iff.mp last]
    exact eq_octets_of_decodeEnd (by simp) read
  | case2 offset a b c d rest full ih =>
    obtain ⟨va, readA, read⟩ := bind_eq_ok_iff.mp read
    obtain ⟨vb, readB, read⟩ := bind_eq_ok_iff.mp read
    obtain ⟨vc, readC, read⟩ := bind_eq_ok_iff.mp read
    obtain ⟨vd, readD, read⟩ := bind_eq_ok_iff.mp read
    obtain ⟨more, readRest, read⟩ := bind_eq_ok_iff.mp read
    cases read
    obtain ⟨ha, rfl⟩ := readSymbol_eq_ok readA
    obtain ⟨hb, rfl⟩ := readSymbol_eq_ok readB
    obtain ⟨hc, rfl⟩ := readSymbol_eq_ok readC
    obtain ⟨hd, rfl⟩ := readSymbol_eq_ok readD
    rw [octets_join_append ha hb hc hd, ← ih readRest]
  | case3 offset group notLong =>
    apply eq_octets_of_decodeEnd _ read
    match group, notLong with
    | [], _ | [_], _ | [_, _], _ | [_, _, _], _ => simp
    | a :: b :: c :: d :: rest, notLong => exact absurd rfl (notLong a b c d rest)

/-- The reader accepts exactly what is written. -/
theorem decode_eq_ok_iff {text octets : List UInt8} :
    decode text = .ok octets ↔ text = Utf8.encode (encode octets) := by
  constructor
  · intro read
    unfold decode at read
    split at read
    · cases read
    · exact eq_octets_of_decodeFrom read
  · rintro rfl
    have noStray : stray? (Utf8.encode (encode octets)) = none := by
      have groups := length_octets_mod_four octets
      unfold stray?
      split
      · rw [if_neg (by omega)]
      · rfl
    rw [decode, noStray]
    exact decodeFrom_octets octets 0

@[simp] theorem encode_inj {a b : List UInt8} : encode a = encode b ↔ a = b := by
  constructor
  · intro same
    have decoded := decode_eq_ok_iff.mpr (congrArg Utf8.encode same)
    rw [decode_eq_ok_iff.mpr rfl] at decoded
    exact Except.ok.inj decoded
  · exact congrArg encode

theorem colon_not_mem_encode (octets : List UInt8) : ':' ∉ encode octets := by
  induction grouped octets with
  | none => simp [encode]
  | two ha hb spare =>
    simp [encode_join_two ha hb spare, colon_ne_symbol _ ha, colon_ne_symbol _ hb]
  | three ha hb hc spare =>
    simp [encode_join_three ha hb hc spare, colon_ne_symbol _ ha,
      colon_ne_symbol _ hb, colon_ne_symbol _ hc]
  | four ha hb hc hd _ ih =>
    simp [encode_join_append ha hb hc hd, colon_ne_symbol _ ha,
      colon_ne_symbol _ hb, colon_ne_symbol _ hc,
      colon_ne_symbol _ hd, ih]

end Hashgate.Base64

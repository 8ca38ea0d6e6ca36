import ManifestOwnership.Text.Base64
import Mathlib.Tactic.Common

/-! # Base64 round trip

Bytes are read back from their written form, and still are if the text was broken into lines,
indented or otherwise strewn with characters that are neither symbols nor pads. To the reader a
strewn text is the text itself, wherever the other characters stand: `decodeFrom_strewn` says so of
any text and of any state of the reader, so the end of a text needs no case of its own.
-/

namespace ManifestOwnership.Text.Base64

variable {text strewn : List Char} {n : Nat}

/-- Whether a character is a symbol: the letters and digits of ASCII are, and two marks. -/
def isSymbol (c : Char) : Bool :=
  c.isAlphanum || c = '+' || c = '/'

/-- A text with characters strewn in that are ASCII, but neither symbols nor pads. -/
inductive Strewn : List Char → List Char → Prop
  | nil : Strewn [] []
  | keep {text strewn : List Char} (c : Char) (rest : Strewn text strewn) :
      Strewn (c :: text) (c :: strewn)
  | insert {text strewn : List Char} (c : Char) (ascii : c.toNat < 128)
      (noSymbol : isSymbol c = false) (noPad : c ≠ '=') (rest : Strewn text strewn) :
      Strewn text (c :: strewn)

/-- A text is strewn with nothing. -/
theorem Strewn.refl (text : List Char) : Strewn text text := by
  induction text with
  | nil => exact .nil
  | cons c rest ih => exact .keep c ih

/-- Only a symbol has a digit. -/
theorem digit?_eq_none_iff {c : Char} : digit? c = none ↔ isSymbol c = false := by
  have alphanumeric : c.isAlphanum = (c.isUpper || c.isLower || c.isDigit) := rfl
  simp only [digit?, isSymbol, alphanumeric]
  split_ifs <;> simp_all

theorem digit?_symbol (small : n < 64) : digit? (symbol n) = some n := by
  have all : ∀ digit < 64, digit? (symbol digit) = some digit := by decide +kernel
  exact all n small

theorem symbol_ne_pad (small : n < 64) : symbol n ≠ '=' := by
  have all : ∀ digit < 64, symbol digit ≠ '=' := by decide +kernel
  exact all n small

theorem symbol_ascii (n : Nat) : (symbol n).toNat < 128 := by
  have all : ∀ digit < 64, (symbol digit).toNat < 128 := by decide +kernel
  by_cases small : n < 64
  · exact all n small
  · rw [show symbol n = '/' by
      rw [symbol, if_neg (by omega), if_neg (by omega), if_neg (by omega), if_neg (by omega)]]
    decide

/-- The reader does not see what a text is strewn with. -/
theorem decodeFrom_strewn (spread : Strewn text strewn) (groups pads : Nat) (pending : List Nat) :
    decodeFrom groups pending pads strewn = decodeFrom groups pending pads text := by
  induction spread generalizing groups pads pending with
  | nil => rfl
  | keep c _ ih => simp only [decodeFrom, ih]
  | insert c ascii noSymbol noPad _ ih =>
    rw [decodeFrom, if_neg noPad, digit?_eq_none_iff.mpr noSymbol]
    exact ih groups pads pending

private theorem decodeFrom_symbol (small : n < 64) (groups pads : Nat) (pending : List Nat)
    (rest : List Char) : decodeFrom groups pending pads (symbol n :: rest) =
      if pending.length < 3 then decodeFrom groups (pending ++ [n]) 0 rest
      else (decodeFrom (groups + 1) [] 0 rest).map (groupBytes (pending ++ [n]) ++ ·) := by
  rw [decodeFrom, if_neg (symbol_ne_pad small), digit?_symbol small]

private theorem ofNat_eq_of_mod {number : Nat} (byte : UInt8) (ends : number % 256 = byte.toNat) :
    UInt8.ofNat number = byte :=
  UInt8.toNat_inj.mp (by rw [UInt8.toNat_ofNat', ends])

private theorem groupBytes_two (a : UInt8) :
    groupBytes [a.toNat * 16 / 64, a.toNat * 16 % 64] = [a] := by
  have bound := a.toNat_lt
  rw [groupBytes, ofNat_eq_of_mod a]
  omega

private theorem groupBytes_three (a b : UInt8) :
    groupBytes [(a.toNat * 256 + b.toNat) * 4 / 4096, (a.toNat * 256 + b.toNat) * 4 / 64 % 64,
      (a.toNat * 256 + b.toNat) * 4 % 64] = [a, b] := by
  have bound := a.toNat_lt
  have bound' := b.toNat_lt
  simp only [groupBytes]
  rw [ofNat_eq_of_mod a (by omega), ofNat_eq_of_mod b (by omega)]

private theorem groupBytes_four (a b c : UInt8) :
    groupBytes [((a.toNat * 256 + b.toNat) * 256 + c.toNat) / 262144,
      ((a.toNat * 256 + b.toNat) * 256 + c.toNat) / 4096 % 64,
      ((a.toNat * 256 + b.toNat) * 256 + c.toNat) / 64 % 64,
      ((a.toNat * 256 + b.toNat) * 256 + c.toNat) % 64] = [a, b, c] := by
  have bound := a.toNat_lt
  have bound' := b.toNat_lt
  have bound'' := c.toNat_lt
  simp only [groupBytes]
  rw [ofNat_eq_of_mod a (by omega), ofNat_eq_of_mod b (by omega),
    ofNat_eq_of_mod c (by omega)]

private theorem decodeFrom_encode (groups : Nat) (bytes : List UInt8) :
    decodeFrom groups [] 0 (encode bytes) = .ok bytes := by
  induction bytes using encode.induct generalizing groups with
  | case1 => rfl
  | case2 a =>
    have bound := a.toNat_lt
    rw [encode, decodeFrom_symbol (by omega), if_pos (by decide), decodeFrom_symbol (by omega),
      if_pos (by simp)]
    exact congrArg Except.ok (groupBytes_two a)
  | case3 a b =>
    have bound := a.toNat_lt
    have bound' := b.toNat_lt
    rw [encode, decodeFrom_symbol (by omega), if_pos (by decide), decodeFrom_symbol (by omega),
      if_pos (by simp), decodeFrom_symbol (by omega), if_pos (by simp)]
    exact congrArg Except.ok (groupBytes_three a b)
  | case4 a b c rest ih =>
    have bound := a.toNat_lt
    have bound' := b.toNat_lt
    have bound'' := c.toNat_lt
    rw [encode, decodeFrom_symbol (by omega), if_pos (by decide), decodeFrom_symbol (by omega),
      if_pos (by simp), decodeFrom_symbol (by omega), if_pos (by simp),
      decodeFrom_symbol (by omega), if_neg (by simp), ih]
    exact congrArg (fun group => Except.ok (group ++ rest)) (groupBytes_four a b c)

/-- The written form of bytes is ASCII. -/
theorem ascii_encode (bytes : List UInt8) : ∀ c ∈ encode bytes, c.toNat < 128 := by
  induction bytes using encode.induct with
  | case1 => simp [encode]
  | case2 a => simp [encode, symbol_ascii]
  | case3 a b => simp [encode, symbol_ascii]
  | case4 a b c rest ih => simpa [encode, symbol_ascii] using ih

/-- An ASCII text stays ASCII when it is strewn. -/
theorem Strewn.ascii (spread : Strewn text strewn) (whole : ∀ c ∈ text, c.toNat < 128) :
    ∀ c ∈ strewn, c.toNat < 128 := by
  induction spread with
  | nil => exact whole
  | keep c _ ih =>
    obtain ⟨here, others⟩ := List.forall_mem_cons.mp whole
    exact List.forall_mem_cons.mpr ⟨here, ih others⟩
  | insert c ascii _ _ _ ih => exact List.forall_mem_cons.mpr ⟨ascii, ih whole⟩

/-- Bytes are read back from their written form, whatever it is strewn with. -/
theorem decode_of_strewn {bytes : List UInt8} (spread : Strewn (encode bytes) strewn) :
    decode strewn = .ok bytes := by
  have ascii : strewn.all (fun c => c.toNat < 128) = true := by
    simpa using spread.ascii (ascii_encode bytes)
  rw [decode, if_pos ascii, decodeFrom_strewn spread, decodeFrom_encode]

end ManifestOwnership.Text.Base64

import TheWire.Rust

/-!
# The Modbus decoders

`application/modbus.rs` decodes a transport payload in three framings, each by its own routine:

* RTU (`parseModbusRtu`): address, function code, data, and a CRC in the last two bytes, low byte
  first; `ModbusPacket.parse`, which the dispatcher calls, is a line-for-line copy of it;
* TCP (`parseModbusTcp`): a 7-byte MBAP header (transaction id, protocol id, length, unit id), the
  function code, and data to the end;
* RTU over TCP (`parseModbusRtuOverTcp`): a 6-byte prefix, then an RTU frame.

Each returns `none` when it panics, and otherwise the `Result` of the source. Each has one spec
lemma per shape of payload, the shapes being the encoders `rtuFrame` and `tcpFrame`: a payload too
short for the framing (`parseModbusRtu_of_length_lt`, …), or a frame (`parseModbusRtu_rtuFrame`,
`parseModbusTcp_tcpFrame`, `parseModbusRtuOverTcp_append`). Every long enough payload is a frame
(`exists_rtuFrame`, `exists_tcpFrame`), so the decoders never reach a panicking slice.
-/

namespace TheWire.Modbus

open Rust

/-- `ModbusError`. -/
inductive ModbusError
  | invalidLength
  | invalidFunctionCode
  | invalidCRC
  deriving DecidableEq, Repr

/-- `ModbusPacket`. -/
structure ModbusPacket where
  address : UInt8
  functionCode : UInt8
  data : List UInt8
  crc : Option UInt16
  deriving DecidableEq, Repr

instance instDecidableEqExcept {ε α : Type} [DecidableEq ε] [DecidableEq α] :
    DecidableEq (Except ε α)
  | .ok x, .ok y => decidable_of_iff (x = y) (by simp)
  | .error x, .error y => decidable_of_iff (x = y) (by simp)
  | .ok _, .error _ => isFalse (by simp)
  | .error _, .ok _ => isFalse (by simp)

/-- `parse_modbus_rtu`. -/
def parseModbusRtu (payload : List UInt8) : Option (Except ModbusError ModbusPacket) :=
  if payload.length < 4 then some (.error .invalidLength) else do
    let address ← payload[0]?
    let functionCode ← payload[1]?
    if functionCode = 0 ∨ functionCode > 127 then some (.error .invalidFunctionCode) else do
      let dataLen ← usizeSub payload.length 4
      let data ← range payload 2 (2 + dataLen)
      let crc ← fromLeBytes (← rangeFrom payload (← usizeSub payload.length 2))
      pure (.ok { address, functionCode, data, crc := some crc })

/-- `impl Parse for ModbusPacket`: its body is a line-for-line copy of `parse_modbus_rtu`. -/
def ModbusPacket.parse (payload : List UInt8) : Option (Except ModbusError ModbusPacket) :=
  parseModbusRtu payload

/-- `parse_modbus_tcp`. -/
def parseModbusTcp (payload : List UInt8) : Option (Except ModbusError ModbusPacket) :=
  if payload.length < 8 then some (.error .invalidLength) else do
    let _transactionId ← fromBeBytes (← range payload 0 2)
    let _protocolId ← fromBeBytes (← range payload 2 4)
    let _length ← fromBeBytes (← range payload 4 6)
    let unitId ← payload[6]?
    let functionCode ← payload[7]?
    if functionCode = 0 ∨ functionCode > 127 then some (.error .invalidFunctionCode) else do
      let data ← rangeFrom payload 8
      pure (.ok { address := unitId, functionCode, data, crc := none })

/-- `parse_modbus_rtu_over_tcp`. -/
def parseModbusRtuOverTcp (payload : List UInt8) : Option (Except ModbusError ModbusPacket) :=
  if payload.length < 8 then some (.error .invalidLength) else do
    parseModbusRtu (← rangeFrom payload 6)

/-! ## The framings -/

/-- The RTU frame of an address, a function code, data and a CRC. -/
def rtuFrame (address functionCode : UInt8) (data : List UInt8) (crc : UInt16) : List UInt8 :=
  address :: functionCode :: (data ++ leBytes crc)

/-- A TCP frame: a 6-byte `header` (transaction id, protocol id, length), then the unit id, the
function code and the data. -/
def tcpFrame (header : List UInt8) (unitId functionCode : UInt8) (data : List UInt8) :
    List UInt8 :=
  header ++ unitId :: functionCode :: data

/-- What a decoder returns for a frame of function code `functionCode`: the frame `packet` when
the code is in `1..=127`. -/
def checkFunctionCode (functionCode : UInt8) (packet : ModbusPacket) :
    Except ModbusError ModbusPacket :=
  if functionCode = 0 ∨ functionCode > 127 then .error .invalidFunctionCode else .ok packet

@[simp] theorem length_leBytes (c : UInt16) : (leBytes c).length = 2 := rfl

@[simp] theorem length_rtuFrame (a fc : UInt8) (d : List UInt8) (c : UInt16) :
    (rtuFrame a fc d c).length = d.length + 4 := by
  simp [rtuFrame]

/-- The function-code check fails only with `invalidFunctionCode`, and exactly on a code out of
`1..=127`. -/
theorem checkFunctionCode_eq_error_iff {fc : UInt8} {f : ModbusPacket} {e : ModbusError} :
    checkFunctionCode fc f = .error e ↔ e = .invalidFunctionCode ∧ (fc = 0 ∨ fc > 127) := by
  unfold checkFunctionCode; split <;> simp_all [eq_comm]

theorem checkFunctionCode_eq_ok {fc : UInt8} (h₀ : fc ≠ 0) (h₁ : fc ≤ 127) (f : ModbusPacket) :
    checkFunctionCode fc f = .ok f := by
  simp [checkFunctionCode, h₀, h₁]

theorem checkFunctionCode_eq_ok_iff {fc : UInt8} {f g : ModbusPacket} :
    checkFunctionCode fc f = .ok g ↔ fc ≠ 0 ∧ fc ≤ 127 ∧ f = g := by
  unfold checkFunctionCode
  split
  · rename_i h
    refine iff_of_false (by simp) ?_
    rintro ⟨h₀, h₁, -⟩
    exact h.elim h₀ (UInt8.not_le.mpr · h₁)
  · simp_all

/-- The error of the function-code check does not depend on the frame. -/
theorem checkFunctionCode_eq_error_congr (fc : UInt8) (f g : ModbusPacket) (e : ModbusError) :
    checkFunctionCode fc f = .error e ↔ checkFunctionCode fc g = .error e := by
  rw [checkFunctionCode_eq_error_iff, checkFunctionCode_eq_error_iff]

/-- Every payload of at least four bytes is an RTU frame. -/
theorem exists_rtuFrame {p : List UInt8} (h : 4 ≤ p.length) :
    ∃ a fc d c, p = rtuFrame a fc d c := by
  match p, h with
  | a :: fc :: rest, h =>
    obtain ⟨lo, hi, hlh⟩ : ∃ lo hi, rest.drop (rest.length - 2) = [lo, hi] :=
      List.length_eq_two.mp (by simp at h ⊢; omega)
    refine ⟨a, fc, rest.take (rest.length - 2), UInt16.ofNat (lo.toNat + 256 * hi.toNat), ?_⟩
    rw [rtuFrame, leBytes_fromLeBytes, ← hlh, List.take_append_drop]

/-- Every payload of at least eight bytes is a TCP frame. -/
theorem exists_tcpFrame {p : List UInt8} (h : 8 ≤ p.length) :
    ∃ header u fc d, header.length = 6 ∧ p = tcpFrame header u fc d := by
  obtain ⟨u, fc, d, e⟩ : ∃ u fc d, p.drop 6 = u :: fc :: d := by
    match hd : p.drop 6 with
    | u :: fc :: d => exact ⟨u, fc, d, rfl⟩
    | [] | [_] => have := congrArg List.length hd; simp at this; omega
  exact ⟨p.take 6, u, fc, d, by simp; omega, by rw [tcpFrame, ← e, List.take_append_drop]⟩

/-! ## Spec lemmas -/

theorem parseModbusRtu_of_length_lt {p : List UInt8} (h : p.length < 4) :
    parseModbusRtu p = some (.error .invalidLength) :=
  if_pos h

theorem parseModbusRtu_rtuFrame (a fc : UInt8) (d : List UInt8) (c : UInt16) :
    parseModbusRtu (rtuFrame a fc d c) = some (checkFunctionCode fc ⟨a, fc, d, some c⟩) := by
  have hd : range (rtuFrame a fc d c) 2 (2 + d.length) = some d :=
    range_append [a, fc] d (leBytes c)
  have hc : rangeFrom (rtuFrame a fc d c) (d.length + 2) = some (leBytes c) :=
    rangeFrom_append ([a, fc] ++ d) (leBytes c)
  have h₄ : usizeSub (d.length + 4) 4 = some d.length := usizeSub_eq (by omega)
  have h₂ : usizeSub (d.length + 4) 2 = some (d.length + 2) := usizeSub_eq (by omega)
  rw [parseModbusRtu, if_neg (by simp), length_rtuFrame, h₄, h₂]
  simp only [rtuFrame] at hd hc ⊢
  simp only [List.getElem?_cons_zero, List.getElem?_cons_succ, Option.bind_eq_bind,
    Option.some_bind, hd, hc, fromLeBytes_leBytes, checkFunctionCode]
  split_ifs <;> rfl

theorem parseModbusTcp_of_length_lt {p : List UInt8} (h : p.length < 8) :
    parseModbusTcp p = some (.error .invalidLength) :=
  if_pos h

theorem parseModbusTcp_tcpFrame {header : List UInt8} (hh : header.length = 6)
    (u fc : UInt8) (d : List UInt8) :
    parseModbusTcp (tcpFrame header u fc d) = some (checkFunctionCode fc ⟨u, fc, d, none⟩) := by
  match header, hh with
  | [h₀, h₁, h₂, h₃, h₄, h₅], _ =>
    rw [parseModbusTcp, if_neg (by simp [tcpFrame])]
    simp only [tcpFrame, checkFunctionCode]
    simp [range, rangeFrom, fromBeBytes]
    split_ifs <;> rfl

theorem parseModbusRtuOverTcp_of_length_lt {p : List UInt8} (h : p.length < 8) :
    parseModbusRtuOverTcp p = some (.error .invalidLength) :=
  if_pos h

/-- Past the length guard, RTU over TCP is RTU on what follows a 6-byte prefix. -/
theorem parseModbusRtuOverTcp_append {header : List UInt8} (hh : header.length = 6)
    {rest : List UInt8} (hr : 2 ≤ rest.length) :
    parseModbusRtuOverTcp (header ++ rest) = parseModbusRtu rest := by
  have := rangeFrom_append header rest
  simp only [parseModbusRtuOverTcp, List.length_append, hh] at this ⊢
  rw [if_neg (by omega), this]
  rfl

/-! ## What each decoder returns -/

/-- A payload is too short for RTU, or it is an RTU frame. -/
theorem parseModbusRtu_cases (p : List UInt8) :
    (p.length < 4 ∧ parseModbusRtu p = some (.error .invalidLength)) ∨
      ∃ a fc d c, p = rtuFrame a fc d c ∧
        parseModbusRtu p = some (checkFunctionCode fc ⟨a, fc, d, some c⟩) := by
  by_cases h : p.length < 4
  · exact .inl ⟨h, parseModbusRtu_of_length_lt h⟩
  · obtain ⟨a, fc, d, c, rfl⟩ := exists_rtuFrame (Nat.not_lt.mp h)
    exact .inr ⟨a, fc, d, c, rfl, parseModbusRtu_rtuFrame a fc d c⟩

/-- The RTU decoder never panics. -/
theorem exists_parseModbusRtu_eq (p : List UInt8) : ∃ r, parseModbusRtu p = some r := by
  rcases parseModbusRtu_cases p with ⟨-, e⟩ | ⟨_, _, _, _, -, e⟩ <;> exact ⟨_, e⟩

/-- The RTU decoder accepts exactly the payloads of four bytes or more whose second byte is a
function code in `1..=127`. -/
theorem exists_parseModbusRtu_ok_iff (p : List UInt8) :
    (∃ f, parseModbusRtu p = some (.ok f)) ↔ 4 ≤ p.length ∧ (1 : UInt8) ≤ p[1]! ∧ p[1]! ≤ 127 := by
  rw [one_le_iff_ne_zero]
  rcases parseModbusRtu_cases p with ⟨h, e⟩ | ⟨a, fc, d, c, rfl, e⟩
  · simp [e, Nat.not_le.mpr h]
  · have h₁ : (rtuFrame a fc d c)[1]! = fc := by simp [rtuFrame]
    simp [e, h₁, checkFunctionCode_eq_ok_iff]

/-- **The RTU decoder**: it never panics, its errors are exactly a short payload and a function
code out of `1..=127`, and a frame it returns tiles the payload. -/
theorem parseModbusRtu_spec (p : List UInt8) :
    ModbusPacket.parse p = parseModbusRtu p ∧ (parseModbusRtu p).isSome ∧
    (parseModbusRtu p = some (.error .invalidLength) ↔ p.length < 4) ∧
    (parseModbusRtu p = some (.error .invalidFunctionCode) ↔
      4 ≤ p.length ∧ (p[1]! = 0 ∨ p[1]! > 127)) ∧
    (4 ≤ p.length → p[1]! ≠ 0 → p[1]! ≤ 127 → ∃ f c, parseModbusRtu p = some (.ok f) ∧
      f.crc = some c ∧
      [f.address, f.functionCode] ++ f.data ++ [(c % 256).toUInt8, (c / 256).toUInt8] = p) ∧
    parseModbusRtu p ≠ some (.error .invalidCRC) := by
  refine ⟨rfl, ?_⟩
  rcases parseModbusRtu_cases p with ⟨h, e⟩ | ⟨a, fc, d, c, rfl, e⟩
  · simp [e, h, Nat.not_le.mpr h]
  · have h₁ : (rtuFrame a fc d c)[1]! = fc := by simp [rtuFrame]
    refine ⟨by simp [e], ?_, ?_, fun _ h₀ h₁' => ?_, by simp [e, checkFunctionCode_eq_error_iff]⟩
    · simp [e, checkFunctionCode_eq_error_iff]
    · simp [e, h₁, checkFunctionCode_eq_error_iff]
    · rw [h₁] at h₀ h₁'
      exact ⟨⟨a, fc, d, some c⟩, c, by rw [e, checkFunctionCode_eq_ok h₀ h₁'], rfl, rfl⟩

/-- The RTU examples of §8 of the spec. -/
example : parseModbusRtu [0x01, 0x03, 0xAA, 0xBB, 0xCC, 0xDD] =
    some (.ok ⟨1, 3, [0xAA, 0xBB], some 0xDDCC⟩) := by decide

example : parseModbusRtu [0x01, 0x80, 0xCC, 0xDD] = some (.error .invalidFunctionCode) := by
  decide

/-- What the TCP decoder makes of the bytes after the 6-byte prefix. -/
def tcpPdu : List UInt8 → Except ModbusError ModbusPacket
  | u :: fc :: d => checkFunctionCode fc ⟨u, fc, d, none⟩
  | _ => .error .invalidLength

/-- The TCP decoder reads nothing of the transaction id, the protocol id and the length. -/
theorem parseModbusTcp_eq_tcpPdu (p : List UInt8) :
    parseModbusTcp p = some (tcpPdu (p.drop 6)) := by
  by_cases h : p.length < 8
  · rw [parseModbusTcp_of_length_lt h]
    match hd : p.drop 6 with
    | [] | [_] => rfl
    | _ :: _ :: _ => have := congrArg List.length hd; simp at this; omega
  · obtain ⟨header, u, fc, d, hh, rfl⟩ := exists_tcpFrame (Nat.not_lt.mp h)
    rw [parseModbusTcp_tcpFrame hh, tcpFrame, List.drop_left' hh, tcpPdu]

/-- **The TCP decoder**: it never panics, its errors are exactly a short payload and a function
code out of `1..=127`, and a frame it returns is the unit id, the function code and the rest. -/
theorem parseModbusTcp_spec (p : List UInt8) :
    (parseModbusTcp p).isSome ∧
    (parseModbusTcp p = some (.error .invalidLength) ↔ p.length < 8) ∧
    (parseModbusTcp p = some (.error .invalidFunctionCode) ↔
      8 ≤ p.length ∧ (p[7]! = 0 ∨ p[7]! > 127)) ∧
    (8 ≤ p.length → p[7]! ≠ 0 → p[7]! ≤ 127 → ∃ f, parseModbusTcp p = some (.ok f) ∧
      f.crc = none ∧ [f.address, f.functionCode] ++ f.data = p.drop 6) ∧
    ∀ q, q.drop 6 = p.drop 6 → parseModbusTcp q = parseModbusTcp p := by
  have hdrop : ∀ q, q.drop 6 = p.drop 6 → parseModbusTcp q = parseModbusTcp p := fun q hq => by
    rw [parseModbusTcp_eq_tcpPdu, hq, parseModbusTcp_eq_tcpPdu]
  by_cases h : p.length < 8
  · refine ⟨?_, ?_, ?_, ?_, hdrop⟩ <;> simp [parseModbusTcp_of_length_lt h, h, Nat.not_le.mpr h]
  · obtain ⟨header, u, fc, d, hh, rfl⟩ := exists_tcpFrame (Nat.not_lt.mp h)
    have h₇ : (tcpFrame header u fc d)[7]! = fc := by
      match header, hh with
      | [_, _, _, _, _, _], _ => simp [tcpFrame]
    have hd : (tcpFrame header u fc d).drop 6 = u :: fc :: d := by rw [tcpFrame, List.drop_left' hh]
    have e := parseModbusTcp_tcpFrame hh u fc d
    refine ⟨by simp [e], ?_, ?_, fun _ h₀ h₁ => ?_, hdrop⟩
    · simp [e, h, checkFunctionCode_eq_error_iff]
    · simp [e, h₇, Nat.not_lt.mp h, checkFunctionCode_eq_error_iff]
    · rw [h₇] at h₀ h₁
      exact ⟨⟨u, fc, d, none⟩, by rw [e, checkFunctionCode_eq_ok h₀ h₁], rfl, hd.symm⟩

/-- The TCP example of §8 of the spec: unit id 7, function code 4, no data. -/
example : parseModbusTcp [0, 1, 0, 0, 0, 2, 7, 4] = some (.ok ⟨7, 4, [], none⟩) := by decide

/-- Every payload of at least ten bytes is a 6-byte prefix and an RTU frame. -/
theorem exists_prefix_rtuFrame {p : List UInt8} (h : 10 ≤ p.length) :
    ∃ header a fc d c, header.length = 6 ∧ p = header ++ rtuFrame a fc d c := by
  obtain ⟨a, fc, d, c, e⟩ := exists_rtuFrame (p := p.drop 6) (by simp; omega)
  exact ⟨p.take 6, a, fc, d, c, by simp; omega, by rw [← e, List.take_append_drop]⟩

/-- Below ten bytes, RTU over TCP finds no room for an RTU frame after its prefix. -/
theorem parseModbusRtuOverTcp_of_length_lt_ten {p : List UInt8} (h : p.length < 10) :
    parseModbusRtuOverTcp p = some (.error .invalidLength) := by
  by_cases h' : p.length < 8
  · exact parseModbusRtuOverTcp_of_length_lt h'
  · rw [← List.take_append_drop 6 p, parseModbusRtuOverTcp_append (by simp; omega) (by simp; omega)]
    exact parseModbusRtu_of_length_lt (by simp; omega)

/-- **RTU over TCP is the TCP decoder with the last two data bytes read as a CRC**: it never
panics, it succeeds exactly when the TCP decoder does on at least ten bytes, with the same address
and function code, and it fails as the TCP decoder does, or with `invalidLength` below ten bytes. -/
theorem parseModbusRtuOverTcp_spec (p : List UInt8) :
    (parseModbusRtuOverTcp p).isSome ∧
    ((∃ f, parseModbusRtuOverTcp p = some (.ok f)) ↔
      10 ≤ p.length ∧ ∃ g, parseModbusTcp p = some (.ok g)) ∧
    (∀ f g, parseModbusRtuOverTcp p = some (.ok f) → parseModbusTcp p = some (.ok g) →
      ∃ c, f.crc = some c ∧ f.address = g.address ∧ f.functionCode = g.functionCode ∧
        g.data = f.data ++ [(c % 256).toUInt8, (c / 256).toUInt8]) ∧
    (10 ≤ p.length → ∀ e,
      parseModbusRtuOverTcp p = some (.error e) ↔ parseModbusTcp p = some (.error e)) ∧
    (p.length < 10 → parseModbusRtuOverTcp p = some (.error .invalidLength)) := by
  by_cases h : p.length < 10
  · have e := parseModbusRtuOverTcp_of_length_lt_ten h
    exact ⟨by simp [e], by simp [e, h], by simp [e], fun h' => absurd h' (by omega), fun _ => e⟩
  · obtain ⟨header, a, fc, d, c, hh, rfl⟩ := exists_prefix_rtuFrame (Nat.not_lt.mp h)
    have e₁ : parseModbusRtuOverTcp (header ++ rtuFrame a fc d c) =
        some (checkFunctionCode fc ⟨a, fc, d, some c⟩) := by
      rw [parseModbusRtuOverTcp_append hh (by simp), parseModbusRtu_rtuFrame]
    have e₂ : parseModbusTcp (header ++ rtuFrame a fc d c) =
        some (checkFunctionCode fc ⟨a, fc, d ++ leBytes c, none⟩) :=
      parseModbusTcp_tcpFrame hh a fc (d ++ leBytes c)
    refine ⟨by simp [e₁], ?_, ?_, fun _ e => ?_, fun h' => absurd h' h⟩
    · have : 10 ≤ header.length + (d.length + 4) := by simpa using h
      simp [e₁, e₂, checkFunctionCode_eq_ok_iff, this]
    · simp only [e₁, e₂, Option.some.injEq, checkFunctionCode_eq_ok_iff]
      rintro _ _ ⟨-, -, rfl⟩ ⟨-, -, rfl⟩
      exact ⟨c, rfl, rfl, rfl, rfl⟩
    · simp only [e₁, e₂, Option.some.injEq]
      exact checkFunctionCode_eq_error_congr ..

end TheWire.Modbus

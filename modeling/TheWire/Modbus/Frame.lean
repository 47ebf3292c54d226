import TheWire.Modbus.Parse

/-!
# Modbus frames and their wire formats

§3 of the spec: a Modbus frame is a unit address, a function code in `1..=127`, data, and a CRC in
the framings that carry one. `RtuFrame`, `TcpFrame` and `RtuOverTcpFrame` hold their function code
as a `FunctionCode`, which carries the bound, so that a frame out of range cannot be built, and
`encode` writes each on the wire. Each decoder of `Modbus.Parse` inverts its framing:

* decoding an encoded frame gives the frame back (`parseModbusRtu_encode`,
  `parseModbusTcp_encode`, `parseModbusRtuOverTcp_encode`);
* whatever a decoder accepts is the encoding of a frame, which it returns
  (`exists_encode_of_parseModbusRtu`, and the same for TCP and RTU over TCP).

So a decoder accepts exactly the encodings of well-formed frames (`parseModbusRtu_eq_ok_iff`, and
the same for TCP and RTU over TCP). What the formats do not delimit, the decoders do not split:
two RTU frames back to back are read as one (`parseModbusRtu_encode_append`). The RTU decoder,
which the dispatcher applies to all Modbus traffic, reads a TCP frame's transaction id as its
address and function code (`parseModbusRtu_tcpEncode`).
-/

namespace TheWire.Modbus

open Rust

/-- A function code the decoders accept: `1..=127`. -/
def FunctionCode : Type := { fc : UInt8 // fc ≠ 0 ∧ fc ≤ 127 }

instance : DecidableEq FunctionCode := inferInstanceAs (DecidableEq (Subtype _))

/-- The function code of a frame the checks accepted. -/
def FunctionCode.ofCheck {fc : UInt8} {f g : ModbusPacket} (h : checkFunctionCode fc f = .ok g) :
    FunctionCode :=
  ⟨fc, (checkFunctionCode_eq_ok_iff.mp h).1, (checkFunctionCode_eq_ok_iff.mp h).2.1⟩

theorem checkFunctionCode_val (fc : FunctionCode) (f : ModbusPacket) :
    checkFunctionCode fc.1 f = .ok f :=
  checkFunctionCode_eq_ok fc.2.1 fc.2.2 f

/-- The transaction id, protocol id and length of an MBAP header, high byte first. -/
def mbapPrefix (transactionId protocolId length : UInt16) : List UInt8 :=
  beBytes transactionId ++ beBytes protocolId ++ beBytes length

@[simp] theorem length_mbapPrefix (t pr l : UInt16) : (mbapPrefix t pr l).length = 6 := rfl

theorem exists_mbapPrefix {header : List UInt8} (h : header.length = 6) :
    ∃ t pr l, mbapPrefix t pr l = header := by
  match header, h with
  | [h₀, h₁, h₂, h₃, h₄, h₅], _ =>
    obtain ⟨t, ht⟩ := @exists_beBytes [h₀, h₁] rfl
    obtain ⟨pr, hpr⟩ := @exists_beBytes [h₂, h₃] rfl
    obtain ⟨l, hl⟩ := @exists_beBytes [h₄, h₅] rfl
    exact ⟨t, pr, l, by rw [mbapPrefix, ht, hpr, hl]; rfl⟩

/-! ## RTU -/

/-- An RTU frame: the unit address, the function code, the data and the CRC. -/
structure RtuFrame where
  address : UInt8
  functionCode : FunctionCode
  data : List UInt8
  crc : UInt16
  deriving DecidableEq

/-- The bytes of an RTU frame. -/
def RtuFrame.encode (f : RtuFrame) : List UInt8 :=
  rtuFrame f.address f.functionCode.1 f.data f.crc

/-- The packet the decoders return for an RTU frame. -/
def RtuFrame.toModbusPacket (f : RtuFrame) : ModbusPacket :=
  ⟨f.address, f.functionCode.1, f.data, some f.crc⟩

theorem parseModbusRtu_encode (f : RtuFrame) :
    parseModbusRtu f.encode = some (.ok f.toModbusPacket) := by
  rw [RtuFrame.encode, parseModbusRtu_rtuFrame, checkFunctionCode_val]
  rfl

theorem exists_encode_of_parseModbusRtu {p : List UInt8} {m : ModbusPacket}
    (h : parseModbusRtu p = some (.ok m)) :
    ∃ f : RtuFrame, f.encode = p ∧ f.toModbusPacket = m := by
  rcases parseModbusRtu_cases p with ⟨-, e⟩ | ⟨a, fc, d, c, rfl, e⟩
  · rw [e] at h
    cases h
  · rw [e, Option.some.injEq] at h
    exact ⟨⟨a, .ofCheck h, d, c⟩, rfl, (checkFunctionCode_eq_ok_iff.mp h).2.2⟩

/-- **The RTU decoder accepts exactly the encodings of RTU frames**, and returns the frame. -/
theorem parseModbusRtu_eq_ok_iff {p : List UInt8} {m : ModbusPacket} :
    parseModbusRtu p = some (.ok m) ↔ ∃ f : RtuFrame, f.encode = p ∧ f.toModbusPacket = m :=
  ⟨exists_encode_of_parseModbusRtu, by rintro ⟨f, rfl, rfl⟩; exact parseModbusRtu_encode f⟩

/-- **Back-to-back RTU frames are read as one**: an RTU frame carries no length, so on two frames
in one payload the decoder returns the first frame's address and function code and the second
frame's CRC, with all the bytes between, the first CRC included, as data. -/
theorem parseModbusRtu_encode_append (f g : RtuFrame) :
    parseModbusRtu (f.encode ++ g.encode) = some (.ok ⟨f.address, f.functionCode.1,
      f.data ++ leBytes f.crc ++ g.address :: g.functionCode.1 :: g.data, some g.crc⟩) := by
  have e : f.encode ++ g.encode = rtuFrame f.address f.functionCode.1
      (f.data ++ leBytes f.crc ++ g.address :: g.functionCode.1 :: g.data) g.crc := by
    simp [RtuFrame.encode, rtuFrame]
  rw [e, parseModbusRtu_rtuFrame, checkFunctionCode_val]

/-! ## TCP -/

/-- A TCP frame: the MBAP header (transaction id, protocol id, length, unit id), the function
code and the data. -/
structure TcpFrame where
  transactionId : UInt16
  protocolId : UInt16
  length : UInt16
  unitId : UInt8
  functionCode : FunctionCode
  data : List UInt8
  deriving DecidableEq

/-- The bytes of a TCP frame. -/
def TcpFrame.encode (f : TcpFrame) : List UInt8 :=
  tcpFrame (mbapPrefix f.transactionId f.protocolId f.length) f.unitId f.functionCode.1 f.data

/-- The packet the decoders return for a TCP frame: the unit id is its address. -/
def TcpFrame.toModbusPacket (f : TcpFrame) : ModbusPacket :=
  ⟨f.unitId, f.functionCode.1, f.data, none⟩

theorem parseModbusTcp_encode (f : TcpFrame) :
    parseModbusTcp f.encode = some (.ok f.toModbusPacket) := by
  rw [TcpFrame.encode, parseModbusTcp_tcpFrame (length_mbapPrefix ..), checkFunctionCode_val]
  rfl

theorem exists_encode_of_parseModbusTcp {p : List UInt8} {m : ModbusPacket}
    (h : parseModbusTcp p = some (.ok m)) :
    ∃ f : TcpFrame, f.encode = p ∧ f.toModbusPacket = m := by
  by_cases hp : p.length < 8
  · rw [parseModbusTcp_of_length_lt hp] at h
    cases h
  · obtain ⟨header, u, fc, d, hh, rfl⟩ := exists_tcpFrame (Nat.not_lt.mp hp)
    obtain ⟨t, pr, l, rfl⟩ := exists_mbapPrefix hh
    rw [parseModbusTcp_tcpFrame hh, Option.some.injEq] at h
    exact ⟨⟨t, pr, l, u, .ofCheck h, d⟩, rfl, (checkFunctionCode_eq_ok_iff.mp h).2.2⟩

/-- **The TCP decoder accepts exactly the encodings of TCP frames**, and returns the frame's unit
id, function code and data. -/
theorem parseModbusTcp_eq_ok_iff {p : List UInt8} {m : ModbusPacket} :
    parseModbusTcp p = some (.ok m) ↔ ∃ f : TcpFrame, f.encode = p ∧ f.toModbusPacket = m :=
  ⟨exists_encode_of_parseModbusTcp, by rintro ⟨f, rfl, rfl⟩; exact parseModbusTcp_encode f⟩

/-- The dispatcher's Modbus path decodes every payload as RTU (the open question of §9 of the spec).
On a Modbus TCP frame that reads the transaction id, high byte first, as the address and the
function code; the frame's own unit id and function code end up in the data. -/
theorem parseModbusRtu_tcpEncode (f : TcpFrame) :
    ∃ d c, parseModbusRtu f.encode = some (checkFunctionCode (f.transactionId % 256).toUInt8
      ⟨(f.transactionId / 256).toUInt8, (f.transactionId % 256).toUInt8, d, some c⟩) := by
  obtain ⟨a, fc, d, c, e⟩ := exists_rtuFrame (p := f.encode)
    (by simp only [TcpFrame.encode, tcpFrame, List.length_append, List.length_cons,
      length_mbapPrefix]; omega)
  have hd := e
  simp only [TcpFrame.encode, tcpFrame, mbapPrefix, beBytes, leBytes, rtuFrame, List.reverse_cons,
    List.reverse_nil, List.nil_append, List.cons_append, List.singleton_append,
    List.cons.injEq] at hd
  obtain ⟨rfl, rfl, -⟩ := hd
  exact ⟨d, c, by rw [e, parseModbusRtu_rtuFrame]⟩

/-! ## RTU over TCP -/

/-- An RTU frame carried over TCP: the first three fields of an MBAP header, then the RTU frame. -/
structure RtuOverTcpFrame where
  transactionId : UInt16
  protocolId : UInt16
  length : UInt16
  frame : RtuFrame
  deriving DecidableEq

/-- The bytes of an RTU frame carried over TCP. -/
def RtuOverTcpFrame.encode (f : RtuOverTcpFrame) : List UInt8 :=
  mbapPrefix f.transactionId f.protocolId f.length ++ f.frame.encode

theorem parseModbusRtuOverTcp_encode (f : RtuOverTcpFrame) :
    parseModbusRtuOverTcp f.encode = some (.ok f.frame.toModbusPacket) := by
  rw [RtuOverTcpFrame.encode, parseModbusRtuOverTcp_append (length_mbapPrefix ..)
    (by simp [RtuFrame.encode]), parseModbusRtu_encode]

theorem exists_encode_of_parseModbusRtuOverTcp {p : List UInt8} {m : ModbusPacket}
    (h : parseModbusRtuOverTcp p = some (.ok m)) :
    ∃ f : RtuOverTcpFrame, f.encode = p ∧ f.frame.toModbusPacket = m := by
  by_cases hp : p.length < 10
  · rw [parseModbusRtuOverTcp_of_length_lt_ten hp] at h
    cases h
  · obtain ⟨header, a, fc, d, c, hh, rfl⟩ := exists_prefix_rtuFrame (Nat.not_lt.mp hp)
    obtain ⟨t, pr, l, rfl⟩ := exists_mbapPrefix hh
    rw [parseModbusRtuOverTcp_append hh (by simp)] at h
    obtain ⟨f, hf, rfl⟩ := exists_encode_of_parseModbusRtu h
    exact ⟨⟨t, pr, l, f⟩, by rw [RtuOverTcpFrame.encode, hf], rfl⟩

/-- **The RTU-over-TCP decoder accepts exactly the encodings of RTU frames behind an MBAP
prefix**, and returns the RTU frame. -/
theorem parseModbusRtuOverTcp_eq_ok_iff {p : List UInt8} {m : ModbusPacket} :
    parseModbusRtuOverTcp p = some (.ok m) ↔
      ∃ f : RtuOverTcpFrame, f.encode = p ∧ f.frame.toModbusPacket = m :=
  ⟨exists_encode_of_parseModbusRtuOverTcp, by
    rintro ⟨f, rfl, rfl⟩
    exact parseModbusRtuOverTcp_encode f⟩

end TheWire.Modbus

import TheWire.Modbus.Parse

/-!
# The parsed packet

`serializable_packet/mod.rs`: a `ParsedPacket` holds one optional representation per layer of the
TCP/IP stack, a `SerializablePacket`. `ParsedPacket.new` starts one with its id and no layer. The
application layer's dispatcher writes only the application slot, through
`setApplicationLayerPacket`, whose lemmas say that it leaves the id and the other three slots as
they were.

The representations that no modelled function builds or reads (those of the link, network and
transport decoders and of the HTTP, TLS and DNS handlers) are kept as bare variants: their records
are left out.
-/

namespace TheWire

open Modbus

/-- Modelled from the spec: `SerializableModbusPacket` is declared in
`serializable_packet/application.rs`, which is not under src/; §3 of the spec gives the Modbus
frame it serializes as `{ unit_address, function_code, data, crc }`. -/
structure SerializableModbusPacket where
  unitAddress : UInt8
  functionCode : UInt8
  data : List UInt8
  crc : Option UInt16
  deriving DecidableEq, Repr

/-- Modelled from the spec: `impl From<&ModbusPacket> for SerializableModbusPacket`, which copies
the frame field for field. -/
def SerializableModbusPacket.ofModbusPacket (m : ModbusPacket) : SerializableModbusPacket :=
  ⟨m.address, m.functionCode, m.data, m.crc⟩

/-- `SerializablePacket`: all possible packet serialization options. -/
inductive SerializablePacket
  | ethernetPacket
  | arpPacket
  | ipv4Packet
  | ipv6Packet
  | echoReplyPacket
  | echoRequestPacket
  | icmpPacket
  | icmpv6Packet
  | tcpPacket
  | udpPacket
  | httpRequestPacket
  | httpResponsePacket
  | tlsPacket
  | dnsPacket
  | modbusPacket (packet : SerializableModbusPacket)
  | malformedPacket (reason : String)
  | unknownPacket
  deriving DecidableEq, Repr

/-- `ParsedPacket`: the representations of a packet at each TCP/IP layer. -/
structure ParsedPacket where
  id : ℕ
  linkLayerPacket : Option SerializablePacket
  networkLayerPacket : Option SerializablePacket
  transportLayerPacket : Option SerializablePacket
  applicationLayerPacket : Option SerializablePacket
  deriving DecidableEq, Repr

namespace ParsedPacket

/-- `ParsedPacket::new`: a packet with its id and no layer decoded yet. -/
def new (id : ℕ) : ParsedPacket :=
  { id, linkLayerPacket := none, networkLayerPacket := none, transportLayerPacket := none,
    applicationLayerPacket := none }

/-- `ParsedPacket::set_application_layer_packet`. -/
def setApplicationLayerPacket (p : ParsedPacket)
    (applicationLayerPacket : Option SerializablePacket) : ParsedPacket :=
  { p with applicationLayerPacket }

variable (p : ParsedPacket) (a : Option SerializablePacket)

@[simp] theorem setApplicationLayerPacket_id : (p.setApplicationLayerPacket a).id = p.id := rfl

@[simp] theorem setApplicationLayerPacket_linkLayerPacket :
    (p.setApplicationLayerPacket a).linkLayerPacket = p.linkLayerPacket := rfl

@[simp] theorem setApplicationLayerPacket_networkLayerPacket :
    (p.setApplicationLayerPacket a).networkLayerPacket = p.networkLayerPacket := rfl

@[simp] theorem setApplicationLayerPacket_transportLayerPacket :
    (p.setApplicationLayerPacket a).transportLayerPacket = p.transportLayerPacket := rfl

@[simp] theorem setApplicationLayerPacket_applicationLayerPacket :
    (p.setApplicationLayerPacket a).applicationLayerPacket = a := rfl

/-- Two parsed packets that differ at most in their application layer. -/
def SameLowerLayers (p q : ParsedPacket) : Prop :=
  q.id = p.id ∧ q.linkLayerPacket = p.linkLayerPacket ∧
    q.networkLayerPacket = p.networkLayerPacket ∧ q.transportLayerPacket = p.transportLayerPacket

theorem sameLowerLayers_refl : SameLowerLayers p p := ⟨rfl, rfl, rfl, rfl⟩

theorem sameLowerLayers_setApplicationLayerPacket :
    SameLowerLayers p (p.setApplicationLayerPacket a) := ⟨rfl, rfl, rfl, rfl⟩

end ParsedPacket

end TheWire

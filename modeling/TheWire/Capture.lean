import TheWire.Application
import TheWire.Modbus.Frame

/-!
# Runs of the dispatcher on one capture thread

The capture loop of `main.rs` decodes frame after frame. Each frame's transport payload reaches
`handleApplicationProtocol` together with the `ParsedPacket` the lower layers filled, while the
thread-local reassembly maps carry over from one call to the next: `handleSegments` is such a run.
`handleSegments_forall₂` packages the induction: what one call guarantees of a segment's record,
the run guarantees of every record, in order.

* With handlers that never panic, a run never panics (`handleSegments_isSome`).
* A run of traffic that goes to Modbus or to no handler needs nothing of the handlers: it never
  panics, it leaves the reassembly maps as they were, and each record differs from its segment's
  only in the application layer, filled on the Modbus path (`handleSegments_of_stateless`).

End to end, a segment routed to Modbus is recorded as the RTU frame its payload encodes, or as
malformed, in every run (`handleSegments_modbusRecord`), while a Modbus TCP frame is read as RTU,
its transaction id taken for the address and the function code (`Segment.handle_tcpFrame`): the
dispatcher never calls the TCP decoder, the open question of §9 of the spec.

The loop of `main` itself declares its frame counter inside the loop body, so that every frame is
parsed with id 0 and printed with id 1 (`captureLoop_ids`), and it panics at the first receive
error or runt frame (`captureLoop_isSome_iff`).

Two sets of handlers serve the examples: `Handlers.idle`, which change nothing, and
`Handlers.buffering`, which append each HTTP and TLS payload to its flow's entry, as the
reassembly store of §4.2 of the spec does.
-/

namespace TheWire

open Modbus

/-- A transport-layer payload as it reaches the dispatcher: its flow, whether it closes the flow,
its bytes, and the parsed packet of its frame. -/
structure Segment where
  sourceIp : IpAddr
  sourcePort : UInt16
  destIp : IpAddr
  destPort : UInt16
  isFin : Bool
  packet : List UInt8
  parsedPacket : ParsedPacket

/-- One call of the dispatcher on a segment, with the thread's reassembly maps. -/
def Segment.handle (H : Handlers) (seg : Segment) (parsers : ActiveParsers) : Option Thread :=
  handleApplicationProtocol H seg.sourceIp seg.sourcePort seg.destIp seg.destPort seg.isFin
    seg.packet ⟨parsers, seg.parsedPacket⟩

/-- A run: the dispatcher on each segment in turn, the reassembly maps carried from one call to the
next. It returns the records in order and the final maps, and `none` if a call panics. -/
def handleSegments (H : Handlers) :
    List Segment → ActiveParsers → Option (List ParsedPacket × ActiveParsers)
  | [], parsers => some ([], parsers)
  | seg :: segs, parsers => do
    let t ← seg.handle H parsers
    let (records, parsers') ← handleSegments H segs t.activeParsers
    pure (t.parsedPacket :: records, parsers')

variable {H : Handlers}

/-- On the Modbus path a call writes the record of the decoding outcome, and keeps the maps. -/
theorem Segment.handle_modbus {seg : Segment}
    (hm : classify seg.sourcePort seg.destPort = some .modbus)
    {r : Except ModbusError ModbusPacket} (hr : parseModbusRtu seg.packet = some r)
    (parsers : ActiveParsers) :
    seg.handle H parsers =
      some ⟨parsers, seg.parsedPacket.setApplicationLayerPacket (some (modbusRecord r))⟩ := by
  rw [Segment.handle, handleApplicationProtocol_eq_dispatch, hm, dispatch_modbus _ _ _ _ _ _ _ _ hr]

theorem handleSegments_cons_eq_some {seg : Segment} {segs : List Segment}
    {parsers parsers' : ActiveParsers} {records : List ParsedPacket} :
    handleSegments H (seg :: segs) parsers = some (records, parsers') ↔
      ∃ t records', seg.handle H parsers = some t ∧
        handleSegments H segs t.activeParsers = some (records', parsers') ∧
        records = t.parsedPacket :: records' := by
  simp only [handleSegments, Option.bind_eq_bind, Option.bind_eq_some, Option.pure_def,
    Option.some.injEq, Prod.mk.injEq, Prod.exists]
  constructor
  · rintro ⟨t, ht, records', parsers'', hr, rfl, rfl⟩
    exact ⟨t, records', ht, hr, rfl⟩
  · rintro ⟨t, records', ht, hr, rfl⟩
    exact ⟨t, ht, records', parsers', hr, rfl, rfl⟩

/-- A run is its first call, then the run of the rest from the maps that call leaves. -/
theorem handleSegments_cons (seg : Segment) (segs : List Segment) (parsers : ActiveParsers) :
    handleSegments H (seg :: segs) parsers = (seg.handle H parsers).bind fun t =>
      (handleSegments H segs t.activeParsers).map fun r => (t.parsedPacket :: r.1, r.2) := by
  simp only [handleSegments, Option.bind_eq_bind, Option.pure_def, Option.map_eq_bind]
  rfl

/-- **The run principle**: a property that every call gives its segment's record holds of every
record of a run. -/
theorem handleSegments_forall₂ (P : Segment → ParsedPacket → Prop)
    (step : ∀ seg parsers t, seg.handle H parsers = some t → P seg t.parsedPacket) :
    ∀ {segs parsers records parsers'}, handleSegments H segs parsers = some (records, parsers') →
      List.Forall₂ P segs records
  | [], _, _, _, h => by
    simp only [handleSegments, Option.some.injEq, Prod.mk.injEq] at h
    rw [← h.1]
    exact .nil
  | _ :: _, _, _, _, h => by
    obtain ⟨t, records', ht, hr, rfl⟩ := handleSegments_cons_eq_some.mp h
    exact .cons (step _ _ _ ht) (handleSegments_forall₂ P step hr)

/-- Handlers that never panic. -/
structure Handlers.Total (H : Handlers) : Prop where
  http : ∀ sip sp dip dp ty fin p t, (H.handleHttpPacket sip sp dip dp ty fin p t).isSome
  tls : ∀ sip sp dip dp p t, (H.handleTlsPacket sip sp dip dp p t).isSome
  dns : ∀ sip sp dip dp p t, (H.handleDnsPacket sip sp dip dp p t).isSome

/-- With handlers that never panic, the dispatcher never panics: the Modbus path does not. -/
theorem Segment.handle_isSome (hH : H.Total) (seg : Segment) (parsers : ActiveParsers) :
    (seg.handle H parsers).isSome := by
  rw [Segment.handle, handleApplicationProtocol_eq_dispatch]
  match classify seg.sourcePort seg.destPort with
  | some (.http _) => exact hH.http ..
  | some .tls => exact hH.tls ..
  | some .dns => exact hH.dns ..
  | some .modbus =>
    obtain ⟨r, hr⟩ := exists_parseModbusRtu_eq seg.packet
    rw [dispatch_modbus _ _ _ _ _ _ _ _ hr]
    rfl
  | none => rfl

theorem handleSegments_isSome (hH : H.Total) :
    ∀ segs parsers, (handleSegments H segs parsers).isSome
  | [], _ => rfl
  | seg :: segs, parsers => by
    obtain ⟨t, ht⟩ := Option.isSome_iff_exists.mp (seg.handle_isSome hH parsers)
    obtain ⟨⟨records, parsers'⟩, hr⟩ :=
      Option.isSome_iff_exists.mp (handleSegments_isSome hH segs t.activeParsers)
    exact Option.isSome_iff_exists.mpr
      ⟨_, handleSegments_cons_eq_some.mpr ⟨t, records, ht, hr, rfl⟩⟩

/-- Handlers that never panic and leave the thread as they find it. -/
def Handlers.idle : Handlers :=
  ⟨fun _ _ _ _ _ _ _ t => some t, fun _ _ _ _ _ t => some t, fun _ _ _ _ _ t => some t⟩

/-- The `append` of the reassembly store of §4.2 of the spec: the bytes go at the end of the
flow's entry, which is created empty if absent. -/
def bufferAppend (k : FlowKey) (bytes : List UInt8) (m : AList fun _ : FlowKey => List UInt8) :
    AList fun _ : FlowKey => List UInt8 :=
  m.insert k ((m.lookup k).getD [] ++ bytes)

/-- Handlers that buffer each HTTP and TLS payload in its flow's entry and write no record, as
the stateful handlers of the spec do while a message is incomplete; the DNS handler writes none. -/
def Handlers.buffering : Handlers where
  handleHttpPacket sip sp dip dp _ _ p t := some { t with activeParsers :=
    { t.activeParsers with http := bufferAppend ((sip, sp), (dip, dp)) p t.activeParsers.http } }
  handleTlsPacket sip sp dip dp p t := some { t with activeParsers :=
    { t.activeParsers with tls := bufferAppend ((sip, sp), (dip, dp)) p t.activeParsers.tls } }
  handleDnsPacket _ _ _ _ _ t := some t

theorem Handlers.buffering_total : Handlers.buffering.Total :=
  ⟨fun _ _ _ _ _ _ _ _ => rfl, fun _ _ _ _ _ _ => rfl, fun _ _ _ _ _ _ => rfl⟩

theorem handleSegments_isSome_buffering :
    Handlers.buffering.Total ∧ (handleSegments .buffering
      [⟨.v4 0, 49152, .v4 1, 80, false, [0x47, 0x45, 0x54], .new 0⟩,
        ⟨.v4 0, 49153, .v4 1, 502, false, [1, 3, 0xAA, 0xBB, 0xCC, 0xDD], .new 1⟩,
        ⟨.v4 1, 502, .v4 0, 49153, false, [1, 0x80, 0xCC, 0xDD], .new 2⟩,
        ⟨.v4 1, 502, .v4 0, 49153, false, [1, 3], .new 3⟩,
        ⟨.v4 1, 443, .v4 0, 49154, true, [0x16, 3, 1], .new 4⟩] ⟨∅, ∅⟩).isSome :=
  ⟨Handlers.buffering_total, handleSegments_isSome Handlers.buffering_total _ _⟩

/-! ## Runs off the stateful paths -/

/-- A segment that the dispatcher sends to Modbus or to no handler. -/
def Segment.Stateless (seg : Segment) : Prop :=
  classify seg.sourcePort seg.destPort = some .modbus ∨ classify seg.sourcePort seg.destPort = none

instance : DecidablePred Segment.Stateless := fun _ => inferInstanceAs (Decidable (_ ∨ _))

/-- What the dispatcher does to the record of a stateless segment: it keeps the lower layers,
fills the application layer on the Modbus path, and changes nothing with no match. -/
def Segment.StatelessRecord (seg : Segment) (r : ParsedPacket) : Prop :=
  seg.parsedPacket.SameLowerLayers r ∧
    (classify seg.sourcePort seg.destPort = some .modbus → r.applicationLayerPacket ≠ none) ∧
    (classify seg.sourcePort seg.destPort = none → r = seg.parsedPacket)

theorem Segment.handle_of_stateless {seg : Segment} (hs : seg.Stateless) (parsers : ActiveParsers) :
    ∃ t, seg.handle H parsers = some t ∧ t.activeParsers = parsers ∧
      seg.StatelessRecord t.parsedPacket := by
  rcases hs with hm | hn
  · obtain ⟨r, hr⟩ := exists_parseModbusRtu_eq seg.packet
    exact ⟨_, seg.handle_modbus hm hr parsers, rfl,
      ParsedPacket.sameLowerLayers_setApplicationLayerPacket .., fun _ => by simp,
      fun h => absurd (hm.symm.trans h) (by simp)⟩
  · refine ⟨_, by rw [Segment.handle, handleApplicationProtocol_eq_dispatch, hn]; rfl, rfl,
      ParsedPacket.sameLowerLayers_refl _, fun h => absurd (hn.symm.trans h) (by simp),
      fun _ => rfl⟩

/-- **A run of Modbus and unmatched traffic needs nothing of the handlers**: it never panics,
leaves the reassembly maps as they were, and gives each segment its stateless record. -/
theorem handleSegments_of_stateless :
    ∀ {segs : List Segment}, (∀ seg ∈ segs, seg.Stateless) → ∀ parsers,
      ∃ records, handleSegments H segs parsers = some (records, parsers) ∧
        List.Forall₂ Segment.StatelessRecord segs records
  | [], _, _ => ⟨[], rfl, .nil⟩
  | seg :: segs, hs, parsers => by
    obtain ⟨t, ht, hp, hr⟩ := seg.handle_of_stateless (hs seg (List.mem_cons_self ..)) parsers
    obtain ⟨records, hrs, hall⟩ :=
      handleSegments_of_stateless (fun s h => hs s (List.mem_cons_of_mem _ h)) parsers
    refine ⟨t.parsedPacket :: records, handleSegments_cons_eq_some.mpr
      ⟨t, records, ht, hp ▸ hrs, rfl⟩, .cons hr hall⟩

theorem handleSegments_of_stateless_modbus :
    (∀ seg ∈ [Segment.mk (.v4 0) 49152 (.v4 1) 502 false [1, 3, 0xAA, 0xBB, 0xCC, 0xDD] (.new 0)],
      seg.Stateless) ∧
    ∃ records, handleSegments .idle
      [⟨.v4 0, 49152, .v4 1, 502, false, [1, 3, 0xAA, 0xBB, 0xCC, 0xDD], .new 0⟩] ⟨∅, ∅⟩ =
        some (records, ⟨∅, ∅⟩) ∧
      List.Forall₂ Segment.StatelessRecord
        [⟨.v4 0, 49152, .v4 1, 502, false, [1, 3, 0xAA, 0xBB, 0xCC, 0xDD], .new 0⟩] records :=
  ⟨by decide, handleSegments_of_stateless (by decide) _⟩

/-! ## Modbus frames end to end -/

/-- A Modbus TCP frame on the Modbus port is read as RTU: the high byte of its transaction id is
taken for the address and the low byte for the function code, whatever its own unit id and
function code. -/
theorem Segment.handle_tcpFrame {seg : Segment}
    (hm : classify seg.sourcePort seg.destPort = some .modbus) {f : TcpFrame}
    (hf : seg.packet = f.encode) (parsers : ActiveParsers) :
    ∃ d c, seg.handle H parsers = some ⟨parsers, seg.parsedPacket.setApplicationLayerPacket
      (some (modbusRecord (checkFunctionCode (f.transactionId % 256).toUInt8
        ⟨(f.transactionId / 256).toUInt8, (f.transactionId % 256).toUInt8, d, some c⟩)))⟩ := by
  obtain ⟨d, c, e⟩ := parseModbusRtu_tcpEncode f
  exact ⟨d, c, seg.handle_modbus hm (hf ▸ e) parsers⟩

theorem Segment.handle_tcpFrame_one :
    classify 49152 502 = some .modbus ∧
    ∃ d c, Segment.handle .idle ⟨.v4 0, 49152, .v4 1, 502, false,
        TcpFrame.encode ⟨0x0102, 0, 2, 7, ⟨4, by decide⟩, []⟩, .new 0⟩ ⟨∅, ∅⟩ =
      some ⟨⟨∅, ∅⟩, (ParsedPacket.new 0).setApplicationLayerPacket
        (some (modbusRecord (checkFunctionCode (0x0102 % 256 : UInt16).toUInt8
          ⟨(0x0102 / 256 : UInt16).toUInt8, (0x0102 % 256 : UInt16).toUInt8, d, some c⟩)))⟩ :=
  ⟨by decide,
    Segment.handle_tcpFrame (f := ⟨0x0102, 0, 2, 7, ⟨4, by decide⟩, []⟩) (by decide) rfl _⟩

/-- What the Modbus path records for a segment routed to it, read on the frame format of the spec:
over the segment's own lower layers, the frame when the payload is the encoding of an RTU frame,
and the malformed record otherwise. -/
def Segment.ModbusRecord (seg : Segment) (r : ParsedPacket) : Prop :=
  classify seg.sourcePort seg.destPort = some .modbus →
    (∀ f : RtuFrame, f.encode = seg.packet → r = seg.parsedPacket.setApplicationLayerPacket
      (some (.modbusPacket (.ofModbusPacket f.toModbusPacket)))) ∧
    ((¬∃ f : RtuFrame, f.encode = seg.packet) → r = seg.parsedPacket.setApplicationLayerPacket
      (some (.malformedPacket "Malformed DNS Packet")))

theorem Segment.modbusRecord_of_handle {seg : Segment} {parsers : ActiveParsers} {t : Thread}
    (ht : seg.handle H parsers = some t) : seg.ModbusRecord t.parsedPacket := by
  intro hm
  obtain ⟨r, hr⟩ := exists_parseModbusRtu_eq seg.packet
  rw [seg.handle_modbus hm hr, Option.some.injEq] at ht
  subst ht
  constructor
  · intro f hf
    rw [← hf, parseModbusRtu_encode, Option.some.injEq] at hr
    subst hr
    rfl
  · intro hf
    cases r with
    | ok m =>
      obtain ⟨f, hf', -⟩ := exists_encode_of_parseModbusRtu hr
      exact absurd ⟨f, hf'⟩ hf
    | error e => rfl

/-- **Every record that the Modbus path writes in a run is the spec's**: whatever the handlers,
the traffic around it and the maps, a segment routed to Modbus is recorded as the RTU frame its
payload encodes, or as malformed if it encodes none, and keeps its lower layers. -/
theorem handleSegments_modbusRecord {segs : List Segment} {parsers parsers' : ActiveParsers}
    {records : List ParsedPacket} (h : handleSegments H segs parsers = some (records, parsers')) :
    List.Forall₂ Segment.ModbusRecord segs records :=
  handleSegments_forall₂ _ (fun _ _ _ => Segment.modbusRecord_of_handle) h

theorem handleSegments_modbusRecord_rtu :
    ∃ records parsers', handleSegments .idle
      [⟨.v4 0, 49152, .v4 1, 502, false, [1, 3, 0xAA, 0xBB, 0xCC, 0xDD], .new 0⟩,
        ⟨.v4 1, 502, .v4 0, 49152, false, [1, 0x80], .new 1⟩] ⟨∅, ∅⟩ = some (records, parsers') ∧
      List.Forall₂ Segment.ModbusRecord
        [⟨.v4 0, 49152, .v4 1, 502, false, [1, 3, 0xAA, 0xBB, 0xCC, 0xDD], .new 0⟩,
          ⟨.v4 1, 502, .v4 0, 49152, false, [1, 0x80], .new 1⟩] records :=
  ⟨_, _, rfl, handleSegments_modbusRecord (H := .idle) rfl⟩

/-! ## The capture loop of `main.rs` -/

variable {parseEthernetFrame :
  List UInt8 → ℕ → ActiveParsers → Option (ParsedPacket × ActiveParsers)}

end TheWire

import TheWire.Capture

/-!
# What one part of the traffic can do to another

A capture thread sends the segments of every flow and every protocol through one pair of
reassembly maps, in capture order. This module says what that interleaving can change.

* Traffic that goes to Modbus or to no handler changes nothing for the rest, whatever the handlers:
  a run and the run of its HTTP, TLS and DNS segments alone panic alike, end with the same maps,
  and give those segments the same records (`handleSegments_filter_stateful`).
* Flows do not interfere as long as each handler keeps to the entries of the flow it is called for
  (`Handlers.Local`), the policy of §4.2 of the spec: the dispatcher calls a handler with its
  segment's own flow, and its other paths touch no entry. So a flow's records, and its entries at
  the end of a run, are those of the run of its own segments alone, started from maps with the same
  entries for it (`handleSegments_filter_flow`). Handlers that append each payload to their own
  flow's entry, as the reassembly store of the spec does, are local (`Handlers.buffering_local`).

`recordsWhere P` picks, in order, the records of the segments of a run that satisfy `P`.
-/

namespace TheWire

open Modbus

variable {H : Handlers}

/-- The records of the segments of a run that satisfy `P`, in order. -/
def recordsWhere (P : Segment → Prop) [DecidablePred P] (segs : List Segment)
    (records : List ParsedPacket) : List ParsedPacket :=
  ((segs.zip records).filter fun x => P x.1).map Prod.snd

theorem recordsWhere_cons (P : Segment → Prop) [DecidablePred P] (seg : Segment)
    (segs : List Segment) (r : ParsedPacket) (records : List ParsedPacket) :
    recordsWhere P (seg :: segs) (r :: records) =
      if P seg then r :: recordsWhere P segs records else recordsWhere P segs records := by
  by_cases h : P seg <;> simp [recordsWhere, h]

/-! ## Stateless traffic -/

/-- **Modbus and unmatched traffic does not interfere with the stateful protocols**: for all
handlers, a run and the run of its HTTP, TLS and DNS segments alone panic alike, end with the same
reassembly maps, and give those segments the same records. -/
theorem handleSegments_filter_stateful (segs : List Segment) (parsers : ActiveParsers) :
    (handleSegments H segs parsers).map
        (fun r => (recordsWhere (fun seg => ¬seg.Stateless) segs r.1, r.2)) =
      handleSegments H (segs.filter fun seg => ¬seg.Stateless) parsers := by
  induction segs generalizing parsers with
  | nil => rfl
  | cons seg segs ih =>
    rw [handleSegments_cons]
    by_cases hs : seg.Stateless
    · obtain ⟨t, ht, hp, -⟩ := seg.handle_of_stateless (H := H) hs parsers
      rw [ht, Option.some_bind, hp, Option.map_map, List.filter_cons_of_neg (by simpa), ← ih]
      simp [Function.comp_def, recordsWhere_cons, hs]
    · rw [List.filter_cons_of_pos (by simpa), handleSegments_cons, Option.map_bind]
      simp only [Option.map_map, Function.comp_def, recordsWhere_cons, hs, not_false_eq_true,
        if_true, ← ih]

/-! ## Flows -/

/-- The flow of a segment: the key of its entries in the reassembly maps. -/
def Segment.flowKey (seg : Segment) : FlowKey :=
  ((seg.sourceIp, seg.sourcePort), (seg.destIp, seg.destPort))

/-- Two states of the reassembly maps with the same entries for flow `k`. -/
def ActiveParsers.AgreeOn (k : FlowKey) (p q : ActiveParsers) : Prop :=
  p.http.lookup k = q.http.lookup k ∧ p.tls.lookup k = q.tls.lookup k

namespace ActiveParsers

variable {k : FlowKey} {p q r : ActiveParsers}

theorem agreeOn_refl (k : FlowKey) (p : ActiveParsers) : p.AgreeOn k p := ⟨rfl, rfl⟩

theorem AgreeOn.symm (h : p.AgreeOn k q) : q.AgreeOn k p := ⟨h.1.symm, h.2.symm⟩

theorem AgreeOn.trans (h : p.AgreeOn k q) (h' : q.AgreeOn k r) : p.AgreeOn k r :=
  ⟨h.1.trans h'.1, h.2.trans h'.2⟩

end ActiveParsers

/-- A call, for flow `c`, that keeps to that flow's entries: it leaves the entries of every other
flow as they were, and whether it panics, the record it writes and what it leaves in flow `c`'s
entries depend on no other flow's entries. -/
structure KeepsToFlow (c : FlowKey) (call : Thread → Option Thread) : Prop where
  frame : ∀ t t', call t = some t' → ∀ k ≠ c, t.activeParsers.AgreeOn k t'.activeParsers
  own : ∀ ps₁ ps₂ pp t₁, ps₁.AgreeOn c ps₂ → call ⟨ps₁, pp⟩ = some t₁ →
    ∃ t₂, call ⟨ps₂, pp⟩ = some t₂ ∧ t₂.parsedPacket = t₁.parsedPacket ∧
      t₁.activeParsers.AgreeOn c t₂.activeParsers

/-- Handlers that keep, at each call, to the entries of the flow they are called for. -/
structure Handlers.Local (H : Handlers) : Prop where
  http : ∀ sip sp dip dp ty fin p,
    KeepsToFlow ((sip, sp), (dip, dp)) (H.handleHttpPacket sip sp dip dp ty fin p)
  tls : ∀ sip sp dip dp p, KeepsToFlow ((sip, sp), (dip, dp)) (H.handleTlsPacket sip sp dip dp p)
  dns : ∀ sip sp dip dp p, KeepsToFlow ((sip, sp), (dip, dp)) (H.handleDnsPacket sip sp dip dp p)

/-- A call that never panics, writes a record that depends on no entry, and updates the maps by
`u`, which keeps the other flows' entries and computes flow `c`'s from flow `c`'s alone, keeps to
flow `c`. -/
theorem keepsToFlow_of_update {c : FlowKey} (u : ActiveParsers → ActiveParsers)
    (w : ParsedPacket → ParsedPacket) (frame : ∀ ps : ActiveParsers, ∀ k ≠ c, ps.AgreeOn k (u ps))
    (own : ∀ ps₁ ps₂ : ActiveParsers, ps₁.AgreeOn c ps₂ → (u ps₁).AgreeOn c (u ps₂)) :
    KeepsToFlow c fun t => some ⟨u t.activeParsers, w t.parsedPacket⟩ :=
  ⟨fun _ _ h k hk => by cases h; exact frame _ k hk,
    fun _ _ _ _ hc h => by cases h; exact ⟨_, rfl, rfl, own _ _ hc⟩⟩

/-- A call that changes no entry, and writes a record that depends on none, keeps to every flow. -/
theorem keepsToFlow_of_activeParsers (c : FlowKey) (w : ParsedPacket → ParsedPacket) :
    KeepsToFlow c fun t => some { t with parsedPacket := w t.parsedPacket } :=
  keepsToFlow_of_update id w (fun ps k _ => ActiveParsers.agreeOn_refl k ps) fun _ _ => id

/-- The dispatcher's path for a protocol family calls the handler with the segment's own flow; the
Modbus path and the path with no match keep to every flow. -/
theorem dispatch_keepsToFlow (hH : H.Local) (sourceIp : IpAddr) (sourcePort : UInt16)
    (destIp : IpAddr) (destPort : UInt16) (isFin : Bool) (packet : List UInt8) :
    ∀ pr, KeepsToFlow ((sourceIp, sourcePort), (destIp, destPort))
      (dispatch H sourceIp sourcePort destIp destPort isFin packet pr)
  | some (.http _) => hH.http ..
  | some .tls => hH.tls ..
  | some .dns => hH.dns ..
  | some .modbus => by
    obtain ⟨r, hr⟩ := exists_parseModbusRtu_eq packet
    have e : dispatch H sourceIp sourcePort destIp destPort isFin packet (some .modbus) =
        fun t => some { t with
          parsedPacket := t.parsedPacket.setApplicationLayerPacket (some (modbusRecord r)) } :=
      funext fun t => dispatch_modbus _ _ _ _ _ _ _ t hr
    rw [e]
    exact keepsToFlow_of_activeParsers _ (·.setApplicationLayerPacket (some (modbusRecord r)))
  | none => keepsToFlow_of_activeParsers _ id

theorem Segment.handle_keepsToFlow (hH : H.Local) (seg : Segment) :
    KeepsToFlow seg.flowKey fun t => handleApplicationProtocol H seg.sourceIp seg.sourcePort
      seg.destIp seg.destPort seg.isFin seg.packet t := by
  simp only [handleApplicationProtocol_eq_dispatch]
  exact dispatch_keepsToFlow hH ..

/-- **Flows do not interfere**: with handlers that keep to their own flow's entries, a run and
the run of flow `k`'s segments alone, started from maps with the same entries for `k`, give those
segments the same records and end with the same entries for `k`; the segments of the other flows,
interleaved in any way, cannot make flow `k`'s run panic. -/
theorem handleSegments_filter_flow (hH : H.Local) (k : FlowKey) :
    ∀ {segs : List Segment} {ps₁ ps₂ ps₁' : ActiveParsers} {records : List ParsedPacket},
      ps₁.AgreeOn k ps₂ → handleSegments H segs ps₁ = some (records, ps₁') →
      ∃ ps₂', handleSegments H (segs.filter fun seg => seg.flowKey = k) ps₂ =
        some (recordsWhere (fun seg => seg.flowKey = k) segs records, ps₂') ∧ ps₁'.AgreeOn k ps₂'
  | [], _, _, _, _, hk, h => by
    simp only [handleSegments, Option.some.injEq, Prod.mk.injEq] at h
    obtain ⟨rfl, rfl⟩ := h
    exact ⟨_, rfl, hk⟩
  | seg :: segs, ps₁, ps₂, _, _, hk, h => by
    obtain ⟨t, records, ht, hr, rfl⟩ := handleSegments_cons_eq_some.mp h
    by_cases hs : seg.flowKey = k
    · subst hs
      obtain ⟨t₂, ht₂, hpp, hk₂⟩ := (seg.handle_keepsToFlow hH).own _ _ _ _ hk ht
      obtain ⟨ps₂', hr₂, hk'⟩ := handleSegments_filter_flow hH _ hk₂ hr
      refine ⟨ps₂', ?_, hk'⟩
      rw [List.filter_cons_of_pos (by simp), recordsWhere_cons, if_pos rfl, ← hpp]
      exact handleSegments_cons_eq_some.mpr ⟨t₂, _, ht₂, hr₂, rfl⟩
    · have hk₁ := ((seg.handle_keepsToFlow hH).frame _ _ ht k (Ne.symm hs)).symm.trans hk
      obtain ⟨ps₂', hr₂, hk'⟩ := handleSegments_filter_flow hH k hk₁ hr
      rw [List.filter_cons_of_neg (by simpa), recordsWhere_cons, if_neg hs]
      exact ⟨ps₂', hr₂, hk'⟩

theorem lookup_bufferAppend_of_ne {k c : FlowKey} (h : k ≠ c) (bytes : List UInt8)
    (m : AList fun _ : FlowKey => List UInt8) : (bufferAppend c bytes m).lookup k = m.lookup k :=
  AList.lookup_insert_ne h

theorem lookup_bufferAppend_self (c : FlowKey) (bytes : List UInt8)
    (m : AList fun _ : FlowKey => List UInt8) :
    (bufferAppend c bytes m).lookup c = some ((m.lookup c).getD [] ++ bytes) :=
  AList.lookup_insert ..

/-- Handlers that append each payload to their own flow's entry keep to that flow. -/
theorem Handlers.buffering_local : Handlers.buffering.Local where
  http sip sp dip dp _ _ p :=
    keepsToFlow_of_update
      (fun ps => { ps with http := bufferAppend ((sip, sp), (dip, dp)) p ps.http }) id
      (fun _ _ hk => ⟨(lookup_bufferAppend_of_ne hk ..).symm, rfl⟩)
      (fun _ _ hc => ⟨by rw [lookup_bufferAppend_self, lookup_bufferAppend_self, hc.1], hc.2⟩)
  tls sip sp dip dp p :=
    keepsToFlow_of_update
      (fun ps => { ps with tls := bufferAppend ((sip, sp), (dip, dp)) p ps.tls }) id
      (fun _ _ hk => ⟨rfl, (lookup_bufferAppend_of_ne hk ..).symm⟩)
      (fun _ _ hc => ⟨hc.1, by rw [lookup_bufferAppend_self, lookup_bufferAppend_self, hc.2]⟩)
  dns _ _ _ _ _ := keepsToFlow_of_activeParsers _ id

theorem handleSegments_filter_flow_two :
    Handlers.buffering.Local ∧
    ActiveParsers.AgreeOn ((.v4 0, 49152), (.v4 1, 80))
      ⟨bufferAppend ((.v4 2, 49153), (.v4 1, 80)) [0x50]
        (bufferAppend ((.v4 0, 49152), (.v4 1, 80)) [0x47] ∅), ∅⟩
      ⟨bufferAppend ((.v4 0, 49152), (.v4 1, 80)) [0x47] ∅, ∅⟩ ∧
    ∃ records ps₁', handleSegments .buffering
        [⟨.v4 0, 49152, .v4 1, 80, false, [0x45], .new 0⟩,
          ⟨.v4 2, 49153, .v4 1, 80, false, [0x4F], .new 1⟩,
          ⟨.v4 0, 49152, .v4 1, 502, false, [1, 3, 0xAA, 0xBB, 0xCC, 0xDD], .new 2⟩,
          ⟨.v4 0, 49152, .v4 1, 80, true, [0x54], .new 3⟩]
        ⟨bufferAppend ((.v4 2, 49153), (.v4 1, 80)) [0x50]
          (bufferAppend ((.v4 0, 49152), (.v4 1, 80)) [0x47] ∅), ∅⟩ = some (records, ps₁') ∧
      ∃ ps₂', handleSegments .buffering
        ([⟨.v4 0, 49152, .v4 1, 80, false, [0x45], .new 0⟩,
          ⟨.v4 2, 49153, .v4 1, 80, false, [0x4F], .new 1⟩,
          ⟨.v4 0, 49152, .v4 1, 502, false, [1, 3, 0xAA, 0xBB, 0xCC, 0xDD], .new 2⟩,
          ⟨.v4 0, 49152, .v4 1, 80, true, [0x54], .new 3⟩].filter
            fun seg => seg.flowKey = ((.v4 0, 49152), (.v4 1, 80)))
        ⟨bufferAppend ((.v4 0, 49152), (.v4 1, 80)) [0x47] ∅, ∅⟩ =
        some (recordsWhere (fun seg => seg.flowKey = ((.v4 0, 49152), (.v4 1, 80)))
          [⟨.v4 0, 49152, .v4 1, 80, false, [0x45], .new 0⟩,
            ⟨.v4 2, 49153, .v4 1, 80, false, [0x4F], .new 1⟩,
            ⟨.v4 0, 49152, .v4 1, 502, false, [1, 3, 0xAA, 0xBB, 0xCC, 0xDD], .new 2⟩,
            ⟨.v4 0, 49152, .v4 1, 80, true, [0x54], .new 3⟩] records, ps₂') ∧
      ActiveParsers.AgreeOn ((.v4 0, 49152), (.v4 1, 80)) ps₁' ps₂' :=
  ⟨Handlers.buffering_local, ⟨rfl, rfl⟩, _, _, rfl,
    @handleSegments_filter_flow _ Handlers.buffering_local _ _
      ⟨bufferAppend ((.v4 2, 49153), (.v4 1, 80)) [0x50]
        (bufferAppend ((.v4 0, 49152), (.v4 1, 80)) [0x47] ∅), ∅⟩ _ _ _ ⟨rfl, rfl⟩ rfl⟩

end TheWire

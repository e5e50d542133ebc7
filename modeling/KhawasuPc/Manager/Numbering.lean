import KhawasuPc.Manager.Results

/-!
# Requests, their packets and their records

In a run every request draws the next number, as a byte, and sends one packet at most.
`Numbered` says so of the requests made: each packet and each record belongs to one of them.  As
long as there are no more than 256, an id stands for one request, one packet and one record
(`Numbered.same_packet`, `Numbered.record`).
-/

namespace KhawasuPc

open Lib

variable {L : PacketLayout} {E : Enumeration Nat DeviceApiAction} {setup : Setup} {s s' : Sys}
  {e : Event} {es : List Event} {made : List Request}

namespace Sys

open PhyDeviceManager

/-- The requests made are numbered, and packets and records are theirs. -/
structure Numbered (made : List Request) (s : Sys) : Prop where
  ids : made.map (·.reqId) = (List.range made.length).map UInt8.ofNat
  counter : s.man.actionResponsesCounter = UInt8.ofNat made.length
  sent : ∀ packet ∈ requestPackets s.trace, ∃ q ∈ made, q.SentAs packet
  /-- A request sends one packet at most. -/
  once : ((requestPackets s.trace).map fun packet => packet.body.requestId).Sublist
    (made.map fun q => some q.reqId)
  table : ∀ k data, s.man.actionResponses.lookup k = some data →
    ∃ q ∈ made, q.reqId = k ∧ q.Owns data

/-- An event draws one id at most, which is the next. -/
theorem requests_cases (E : Enumeration Nat DeviceApiAction) (s : Sys) (e : Event) :
    s.requests E e = [] ∨ ∃ q, s.requests E e = [q] ∧ q.reqId = s.man.actionResponsesCounter := by
  cases e with
  | packet | poll | subscribeAction | subscribeActionData => exact Or.inl rfl
  | executeActionAsync env addr port action buffer requireStatus => exact Or.inr ⟨_, rfl, rfl⟩
  | executeAction env startTime addr port action =>
      rw [requests]
      split
      · exact Or.inr ⟨_, rfl, rfl⟩
      · exact Or.inl rfl
  | fetchActionAsync env addr port action | fetchAction env startTime addr port action =>
      rw [requests]
      split
      · exact Or.inr ⟨_, rfl, rfl⟩
      · exact Or.inl rfl

theorem Numbered.start (setup : Setup) : Numbered [] (start setup) where
  ids := rfl
  counter := rfl
  sent _ h := by cases h
  once := List.Sublist.refl _
  table _ _ found := by cases found

/-- Every event keeps the numbering. -/
theorem Numbered.step (h : Numbered made s) (hstep : s.step L E e = some s') :
    Numbered (made ++ s.requests E e) s' := by
  obtain ⟨o, acts, leads⟩ := step_acts hstep
  obtain ⟨packets, trace_eq, sends⟩ := step_sends hstep
  refine ⟨?ids, ?counter, ?sent, ?once, fun k data found => ?table⟩
  case ids =>
    rcases requests_cases E s e with none_drawn | ⟨q, drawn, id⟩
    · rw [none_drawn, List.append_nil]
      exact h.ids
    · rw [drawn, List.map_append, h.ids, List.length_append, List.length_singleton,
        List.range_succ, List.map_append, List.map_singleton, List.map_singleton, id, h.counter]
  case counter =>
    rw [leads.man_eq, acts.counter, h.counter, List.length_append, UInt8.ofNat_add]
  case sent =>
    intro packet hmem
    rw [trace_eq] at hmem
    rcases List.mem_append.mp hmem with before | now
    · obtain ⟨q, hq, sentAs⟩ := h.sent packet before
      exact ⟨q, List.mem_append_left _ hq, sentAs⟩
    · rcases sends with rfl | ⟨packet', q, rfl, drawn, sentAs⟩
      · cases now
      · cases List.mem_singleton.mp now
        rw [drawn]
        exact ⟨q, List.mem_append_right _ (List.mem_singleton_self q), sentAs⟩
  case once =>
    rw [trace_eq, List.map_append, List.map_append]
    refine h.once.append ?_
    rcases sends with rfl | ⟨packet', q, rfl, drawn, sentAs⟩
    · exact List.nil_sublist _
    · rw [drawn, List.map_singleton, List.map_singleton, sentAs.requestId]
  case table => exact acts.record_owned (h.table k) (leads.man_eq ▸ found)

/-! ## No more than 256 requests -/

variable {q q' : Request} {packet packet' : SentPacket}

theorem Numbered.nodup (h : Numbered made s) (few : made.length ≤ 256) :
    (made.map (·.reqId)).Nodup := by
  rw [h.ids]
  refine List.Nodup.map_on (fun i hi j hj same => ?_) List.nodup_range
  rw [List.mem_range] at hi hj
  have eq := congrArg UInt8.toNat same
  rw [UInt8.toNat_ofNat', UInt8.toNat_ofNat'] at eq
  omega

/-- An id stands for one request. -/
theorem Numbered.same_request (h : Numbered made s) (few : made.length ≤ 256) (hq : q ∈ made)
    (hq' : q' ∈ made) (id : q.reqId = q'.reqId) : q = q' :=
  List.inj_on_of_nodup_map (h.nodup few) hq hq' id

/-- An id stands for one packet. -/
theorem Numbered.same_packet (h : Numbered made s) (few : made.length ≤ 256)
    (hp : packet ∈ requestPackets s.trace) (hp' : packet' ∈ requestPackets s.trace)
    (id : packet.body.requestId = packet'.body.requestId) : packet = packet' := by
  have ids : (made.map fun q => some q.reqId) = (made.map (·.reqId)).map some :=
    List.map_map.symm
  have nodup : (made.map fun q => some q.reqId).Nodup := by
    rw [ids]
    exact (h.nodup few).map fun _ _ => Option.some.inj
  exact List.inj_on_of_nodup_map (h.once.nodup nodup) hp hp' id

/-- The record under the id of a packet is that of its request. -/
theorem Numbered.record (h : Numbered made s) (few : made.length ≤ 256)
    (hp : packet ∈ requestPackets s.trace) {k : UInt8} (id : packet.body.requestId = some k)
    {data : ActionResponse} (found : s.man.actionResponses.lookup k = some data) :
    ∃ q : Request, q.SentAs packet ∧ q.reqId = k ∧ q.Owns data := by
  obtain ⟨q, hq, sentAs⟩ := h.sent packet hp
  obtain ⟨q', hq', own, owns⟩ := h.table k data found
  have same : q = q' := by
    refine h.same_request few hq hq' (Option.some.inj ?_)
    rw [own, ← id, sentAs.requestId]
  exact ⟨q, sentAs, same ▸ own, same ▸ owns⟩

end Sys

end KhawasuPc

/-
Ordered channels: when they stall and when they skip.

`deliver_ordered` waits for the number that follows the last packet of a frame, so
a channel stalls once that number went to any other packet; and it begins a
stream at the number that follows the highest received on any channel, so a
channel skips once other traffic has overtaken its first message.  Where neither
can happen, every message comes out in the order it was sent.
-/
import CultNet.Proofs.Rudp.Stream

namespace CultNet.Rudp

/-- A handshake of two default sessions, a run of the client, and a run of the server. -/
theorem runs_of_any {sends : List Call} {receives : CallLog × Session → List Call}
    {check : Established → CallLog × Session → CallLog × Session → Bool}
    (h : ((handshake {} {} 0 0 0 [] []).any fun est =>
      (Machine.exec Session.call (est.session .left) sends).any fun sent =>
        (Machine.exec Session.call (est.session .right) (receives sent)).any fun received =>
          check est sent received) = true) :
    ∃ (est : Established) (log : CallLog) (s : Session) (rlog : CallLog) (r : Session),
      handshake {} {} 0 0 0 [] [] = some est ∧
      Machine.Run Session.call (est.session .left) log s ∧
      Machine.Run Session.call (est.session .right) rlog r ∧
      log.map Prod.fst = sends ∧ rlog.map Prod.fst = receives (log, s) ∧
      check est (log, s) (rlog, r) = true := by
  cases hest : handshake {} {} 0 0 0 [] [] with
  | none =>
      rw [hest] at h
      cases h
  | some est =>
      rw [hest] at h
      obtain ⟨log, s, hsend, hsends, hrest⟩ := Machine.Run.of_exec_any h
      obtain ⟨rlog, r, hreceive, hreceives, hcheck⟩ := Machine.Run.of_exec_any hrest
      exact ⟨est, log, s, rlog, r, rfl, hsend, hreceive, hsends, hreceives, hcheck⟩

/-- Every input of a log is a call of `receive` with one of `packets`. -/
theorem receives_only {packets : List Packet} {rlog : CallLog}
    (h : rlog.map Prod.fst = packets.map fun p => Call.receive p 0) :
    ∀ entry ∈ rlog, entry.1 ≠ .resetPeerState ∧
      ∀ p, entry.1.input? = some p → p ∈ packets := by
  intro entry hentry
  have hinput : entry.1 ∈ rlog.map Prod.fst := List.mem_map_of_mem hentry
  rw [h] at hinput
  obtain ⟨p, hp, heq⟩ := List.mem_map.mp hinput
  rw [← heq]
  constructor
  · intro hreset
    cases hreset
  · intro q hq
    cases hq
    exact hp

/-- A reliable ordered send on the channel `chat`. -/
def chat (byte : UInt8) : Call := .send "chat" [byte] { reliable := true, ordered := true }

section

variable {sender receiver s r : Session} {opening : Packet} {log rlog : CallLog}
  {kept : List Message} {channelId : String} {connectionId : UInt32}

/-! ### Where the receiver stands -/

/-- Where a stream begins that has not begun: after the highest number received. -/
theorem Line.expected (hopened : Opened sender receiver opening)
    (hsend : Machine.Run Session.call sender log s)
    (hline : Line (opening :: log.created) opening kept connectionId rlog r) (p : Packet) :
    ∃ highest ∈ r.receivedSequences, (∀ q ∈ r.receivedSequences, q.toNat ≤ highest.toNat) ∧
      opening.sequence.toNat ≤ highest.toNat ∧ highest.toNat < s.nextSequence.toNat ∧
      (r.expectedSequence p).toNat = highest.toNat + 1 := by
  cases hhighest : r.highestReceivedSequence with
  | none =>
      have hempty := hline.received.empty hhighest
      have hmem := hline.opened
      rw [hempty] at hmem
      cases hmem
  | some highest =>
      have hmem := hline.received.highest highest hhighest
      have hle := hline.received.le highest hhighest
      obtain ⟨q, hq, hsequence⟩ := hline.genuine highest hmem
      have hbounds := hopened.bounds hsend hq
      rw [hsequence] at hbounds
      refine ⟨highest, hmem, ?_, hbounds.1, hbounds.2, ?_⟩
      · intro q' hq'
        exact UInt32.le_iff_toNat_le.mp (hle q' hq')
      · have hlt := s.nextSequence.toNat_lt
        unfold Session.expectedSequence
        rw [hhighest, Option.map_some, Option.getD_some, UInt32.toNat_add, UInt32.toNat_one]
        omega

/-- A message of one packet has come in with its number. -/
theorem has_of_first {m : Message} (hok : m.OK) (hone : m.packets.length = 1)
    (hmem : m.first ∈ r.receivedSequences) : r.Has m := by
  intro p hp
  obtain ⟨i, hi⟩ := List.mem_iff_getElem?.mp hp
  obtain ⟨hlt, -⟩ := List.getElem?_eq_some_iff.mp hi
  have hsequence := hok.sequence i p hi
  have heq : p.sequence = m.first := by
    rw [← UInt32.toNat_inj]
    omega
  rw [heq]
  exact hmem

/-- While no message has come in, no number has that only messages of one packet carry. -/
theorem not_received {low high base : Nat} {j : Nat} (hchain : BackToBack low high kept)
    (hj : j ≤ kept.length)
    (hkeys : ∀ i, i ≤ j → (BackToBack.key kept i).toNat = base + i)
    (hnone : ∀ i, i < kept.length → ¬ Came kept r i) {q : UInt32}
    (hq : q ∈ r.receivedSequences) : q.toNat < base ∨ base + j ≤ q.toNat := by
  by_contra hbetween
  have hi : q.toNat - base < j := by omega
  have hget : kept[q.toNat - base]? = some kept[q.toNat - base] :=
    List.getElem?_eq_getElem (by omega)
  have hkey := hkeys (q.toNat - base) (by omega)
  have hsucc := hchain.key_succ hget
  rw [hkeys (q.toNat - base + 1) (by omega), hkey] at hsucc
  have hfirst : kept[q.toNat - base].first = q := by
    rw [← BackToBack.key_of_get hget, ← UInt32.toNat_inj, hkey]
    omega
  apply hnone (q.toNat - base) (by omega)
  refine ⟨_, hget, ?_⟩
  apply has_of_first (hchain.ok _ (List.getElem_mem _)) (by omega)
  rw [hfirst]
  exact hq

theorem min_toNat (a b : UInt32) : (min a b).toNat = min a.toNat b.toNat := by
  show (if a ≤ b then a else b).toNat = min a.toNat b.toNat
  by_cases h : a ≤ b
  · have hle := UInt32.le_iff_toNat_le.mp h
    rw [if_pos h]
    omega
  · have hlt := UInt32.lt_iff_toNat_lt.mp (UInt32.not_le.mp h)
    rw [if_neg h]
    omega

/-! ### Ordered channels that do not stall -/

/-- The ordered messages of a channel are such that they cannot stall in any order. -/
structure Unbroken (opening : Packet) (log : CallLog) (channelId : String) : Prop where
  /-- Nothing was created between two of them. -/
  next : ∀ (i : Nat) (m m' : Message), (log.orderedMessages channelId)[i]? = some m →
    (log.orderedMessages channelId)[i + 1]? = some m' → m'.first = m.stop
  /-- Nothing was created between the opening packet and a message that travels whole, but
  messages of the channel that travel whole. -/
  whole : ∀ (i : Nat) (m : Message), (log.orderedMessages channelId)[i]? = some m →
    ¬ m.Fragmented → m.first.toNat = opening.sequence.toNat + 1 + i
  /-- The fragment ids of the channel have not run out. -/
  ids : ∀ m ∈ log.orderedMessages channelId, ∀ m' ∈ log.messages, m'.channelId = channelId →
    m.Fragmented → m'.Fragmented → m.fragmentId = m'.fragmentId → m = m'

theorem Unbroken.backToBack (h : Unbroken opening log channelId)
    (hopened : Opened sender receiver opening)
    (hsend : Machine.Run Session.call sender log s) :
    BackToBack (opening.sequence.toNat + 1) s.nextSequence.toNat
      (log.orderedMessages channelId) where
  ok := by
    intro m hm
    exact (messagesOK_of_run hsend hopened.fragmentIds).ok m (mem_orderedMessages.mp hm).1
  between := by
    intro m hm
    rw [← hopened.next]
    exact message_between hsend hopened.fragmentIds (mem_orderedMessages.mp hm).1
  next := h.next

/-- The numbers of the messages before one that travels whole. -/
theorem Unbroken.keys (h : Unbroken opening log channelId)
    (hchain : BackToBack (opening.sequence.toNat + 1) s.nextSequence.toNat
      (log.orderedMessages channelId)) {j : Nat} {m : Message}
    (hj : (log.orderedMessages channelId)[j]? = some m) (hwhole : ¬ m.Fragmented) :
    ∀ i, i ≤ j → (BackToBack.key (log.orderedMessages channelId) i).toNat
      = opening.sequence.toNat + 1 + i := by
  intro i hi
  obtain ⟨hlt, -⟩ := List.getElem?_eq_some_iff.mp hj
  have hfirst := h.whole j m hj hwhole
  rw [← BackToBack.key_of_get hj] at hfirst
  have hget : (log.orderedMessages channelId)[0]?
      = some (log.orderedMessages channelId)[0] := List.getElem?_eq_getElem (by omega)
  have hlow := (hchain.between _ (List.mem_iff_getElem?.mpr ⟨0, hget⟩)).first
  rw [← BackToBack.key_of_get hget] at hlow
  have hbefore := hchain.key_add_le (i := 0) i (by omega)
  have hafter := hchain.key_add_le (i := i) (j - i) (by omega)
  rw [Nat.zero_add] at hbefore
  rw [show i + (j - i) = j by omega] at hafter
  omega

/-- The stream of an unbroken channel begins with one of its messages. -/
theorem Unbroken.begins (h : Unbroken opening log channelId)
    (hopened : Opened sender receiver opening)
    (hsend : Machine.Run Session.call sender log s) :
    Begins (opening :: log.created) opening (log.orderedMessages channelId)
      (fun _ => True) False := by
  intro connectionId rlog r j m p hline hj hp hnew hall hnone
  have hchain := h.backToBack hopened hsend
  obtain ⟨hlt, -⟩ := List.getElem?_eq_some_iff.mp hj
  have hok := hchain.ok m (List.mem_iff_getElem?.mpr ⟨j, hj⟩)
  have hkey : BackToBack.key (log.orderedMessages channelId) j = m.first :=
    BackToBack.key_of_get hj
  obtain ⟨highest, hhighest, hle, hlow, -, hexpected⟩ := hline.expected hopened hsend p
  -- unless something below the message is expected, its own number is
  have hself : m.first.toNat ≤ highest.toNat →
      min (r.expectedSequence p) m.first = BackToBack.key (log.orderedMessages channelId) j := by
    intro hbelow
    rw [hkey, ← UInt32.toNat_inj, min_toNat]
    omega
  refine Or.inr ?_
  by_cases hfragmented : m.Fragmented
  · -- another packet of the message came in before
    refine ⟨j, Nat.le_refl j, trivial, hself ?_⟩
    obtain ⟨i, hi⟩ := List.mem_iff_getElem?.mp hp
    have htwo : 2 ≤ m.packets.length := hfragmented
    obtain ⟨l, hl, hne⟩ : ∃ l, l < m.packets.length ∧ l ≠ i := by
      by_cases hzero : i = 0
      · exact ⟨1, by omega, by omega⟩
      · exact ⟨0, by omega, by omega⟩
    have hget : m.packets[l]? = some m.packets[l] := List.getElem?_eq_getElem hl
    have hreceived := hall _ (List.getElem_mem hl)
    rcases Finset.mem_insert.mp hreceived with hsame | hreceived
    · exact absurd (hok.place_unique hget hi hsame) hne
    · have hsequence := hok.sequence l _ hget
      have hbound := hle _ hreceived
      omega
  · -- nothing of what was sent before it came in, or something after it did
    have hkeys := h.keys hchain hj hfragmented
    have hfirst := hkeys j (Nat.le_refl j)
    rw [hkey] at hfirst
    rcases not_received hchain (Nat.le_of_lt hlt) hkeys hnone hhighest with hbelow | habove
    · refine ⟨0, Nat.zero_le j, trivial, ?_⟩
      have hzero := hkeys 0 (Nat.zero_le j)
      rw [← UInt32.toNat_inj, min_toNat, hexpected]
      omega
    · refine ⟨j, Nat.le_refl j, trivial, hself ?_⟩
      omega

end

/--
**An unbroken channel does not stall.**  Two sessions have shaken hands, `side` sends, and the
other side takes in nothing but what `side` created, in any order and any number of times.
Once it has received all of it, nothing waits on the channel.
-/
theorem ordered_never_stalls {client server : SessionOptions}
    {connectMs acceptMs acceptedMs : Nat} {connectPayload acceptPayload : List UInt8}
    {est : Established}
    (hest : handshake client server connectMs acceptMs acceptedMs connectPayload acceptPayload
      = some est) (side : Side) {log rlog : CallLog} {s r : Session}
    (hsend : Machine.Run Session.call (est.session side) log s)
    (hreceive : Machine.Run Session.call (est.session side.other) rlog r)
    (harrive : ∀ entry ∈ rlog, entry.1 ≠ .resetPeerState ∧
      ∀ p, entry.1.input? = some p → p = est.opening side ∨ p ∈ log.created)
    (hall : ∀ p ∈ log.created, rlog.Received p) {channelId : String}
    (hunbroken : Unbroken (est.opening side) log channelId) :
    r.orderedBuffers.getD channelId ∅ = ∅ := by
  have hopened := handshake_opened hest side
  have hmessages := messagesOK_of_run hsend hopened.fragmentIds
  have hchain := hunbroken.backToBack hopened hsend
  have hordered : ∀ m ∈ log.messages.filter (·.channelId = channelId), m.ordered = true →
      m ∈ log.orderedMessages channelId := by
    intro m hm hflag
    rw [List.mem_filter] at hm
    exact mem_orderedMessages.mpr ⟨hm.1, of_decide_eq_true hm.2, hflag⟩
  obtain ⟨hline, out, hprogress, -⟩ := ordered_run hopened (hopened.traffic hsend hunbroken.ids)
    List.mem_cons_self hordered (fun m hm => (mem_orderedMessages.mp hm).2.2) hchain
    (hunbroken.begins hopened hsend) hreceive (by
      intro entry hentry
      refine ⟨(harrive entry hentry).1, fun p hp => ?_⟩
      rw [List.mem_cons]
      exact (harrive entry hentry).2 p hp)
  have hcame : ∀ i, i < (log.orderedMessages channelId).length →
      Came (log.orderedMessages channelId) r i := by
    intro i hi
    refine ⟨_, List.getElem?_eq_getElem hi, ?_⟩
    obtain ⟨hm, -, -⟩ := mem_orderedMessages.mp (List.getElem_mem hi)
    intro p hp
    have hcreated := hmessages.sublist.subset (List.mem_flatMap.mpr ⟨_, hm, hp⟩)
    apply hline.taken p (hall p hcreated) ((hmessages.ok _ hm).packetType p hp)
    rw [(numbers_of_run hsend).ids p hcreated, hopened.connectionId]
  refine Std.ExtTreeMap.ext_getElem? fun key => ?_
  rw [Std.ExtTreeMap.getElem?_empty]
  exact hprogress.complete hcame key

/-- Two messages with a Ping between them: the second waits for the number of the Ping. -/
theorem ordered_channel_stalls :
    ∃ (est : Established) (log : CallLog) (s : Session) (rlog : CallLog) (r : Session),
      handshake {} {} 0 0 0 [] [] = some est ∧
      Machine.Run Session.call (est.session .left) log s ∧
      Machine.Run Session.call (est.session .right) rlog r ∧
      log.map Prod.fst = [chat 1, .createPing [], chat 2] ∧
      rlog.map Prod.fst = (log.created.map fun p => Call.receive p 0) ∧
      r.orderedBuffers.getD "chat" ∅ ≠ ∅ := by
  have hruns : ((handshake {} {} 0 0 0 [] []).any fun est =>
      (Machine.exec Session.call (est.session .left)
        [chat 1, .createPing [], chat 2]).any fun sent =>
        (Machine.exec Session.call (est.session .right)
          ((CallLog.created sent.1).map fun p => Call.receive p 0)).any fun received =>
          decide ((received.2.orderedBuffers.getD "chat" ∅).size = 1)) = true := by
    decide +kernel
  obtain ⟨est, log, s, rlog, r, hest, hsend, hreceive, hsends, hreceives, hcheck⟩ :=
    runs_of_any hruns
  refine ⟨est, log, s, rlog, r, hest, hsend, hreceive, hsends, hreceives, ?_⟩
  intro hempty
  have hsize := of_decide_eq_true hcheck
  rw [hempty] at hsize
  exact absurd hsize (by decide)

/-- Two messages sent back to back that arrive the other way round. -/
theorem ordered_never_stalls_reversed :
    ∃ (log rlog : CallLog) (r : Session),
      rlog.map Prod.fst = (log.created.reverse.map fun p => Call.receive p 0) ∧
      log.map Prod.fst = [chat 1, chat 2] ∧ r.orderedBuffers.getD "chat" ∅ = ∅ := by
  have hruns : ((handshake {} {} 0 0 0 [] []).any fun est =>
      (Machine.exec Session.call (est.session .left) [chat 1, chat 2]).any fun sent =>
        (Machine.exec Session.call (est.session .right)
          ((CallLog.created sent.1).reverse.map fun p => Call.receive p 0)).any fun _ =>
          decide ((est.opening .left).sequence = 1 ∧
            (CallLog.orderedMessages sent.1 "chat").map
              (fun m => (m.first, m.stop, m.packets.length))
              = [(2, 3, 1), (3, 4, 1)])) = true := by
    decide +kernel
  obtain ⟨est, log, s, rlog, r, hest, hsend, hreceive, hsends, hreceives, hcheck⟩ :=
    runs_of_any hruns
  obtain ⟨hopening, hmessages⟩ := of_decide_eq_true hcheck
  have hplaces : ∀ (i : Nat) (m : Message), (log.orderedMessages "chat")[i]? = some m →
      i < 2 ∧ m.first.toNat = 2 + i ∧ m.stop.toNat = 3 + i ∧ m.packets.length = 1 := by
    intro i m hm
    have hget := congrArg (fun l => l[i]?) hmessages
    rw [List.getElem?_map, hm] at hget
    match i, hget with
    | 0, hget =>
        simp only [Option.map_some, List.getElem?_cons_zero, Option.some.injEq,
          Prod.mk.injEq] at hget
        rw [hget.1, hget.2.1]
        exact ⟨by omega, rfl, rfl, hget.2.2⟩
    | 1, hget =>
        simp only [Option.map_some, List.getElem?_cons_succ, List.getElem?_cons_zero,
          Option.some.injEq, Prod.mk.injEq] at hget
        rw [hget.1, hget.2.1]
        exact ⟨by omega, rfl, rfl, hget.2.2⟩
  refine ⟨log, rlog, r, hreceives, hsends, ?_⟩
  refine ordered_never_stalls hest .left hsend hreceive ?_ ?_ ⟨?_, ?_, ?_⟩
  · intro entry hentry
    obtain ⟨hreset, hinput⟩ := receives_only hreceives entry hentry
    exact ⟨hreset, fun p hp => Or.inr (List.mem_reverse.mp (hinput p hp))⟩
  · intro p hp
    have hcall : Call.receive p 0 ∈ rlog.map Prod.fst := by
      rw [hreceives]
      exact List.mem_map_of_mem (List.mem_reverse.mpr hp)
    obtain ⟨⟨c, out⟩, hentry, hc⟩ := List.mem_map.mp hcall
    exact ⟨0, out, by rw [← hc]; exact hentry⟩
  · intro i m m' hm hm'
    have hplace := hplaces i m hm
    have hplace' := hplaces (i + 1) m' hm'
    rw [← UInt32.toNat_inj]
    omega
  · intro i m hm _
    have hplace := hplaces i m hm
    rw [hopening, UInt32.toNat_one]
    omega
  · intro m hm _ _ _ hfragmented _ _
    obtain ⟨i, hi⟩ := List.mem_iff_getElem?.mp hm
    have hlength := (hplaces i m hi).2.2.2
    have htwo : 2 ≤ m.packets.length := hfragmented
    omega

/-! ### Ordered channels that do not skip -/

/-- Nothing can overtake the first message of a channel but other messages of the channel. -/
def NotOvertaken (log : CallLog) (channelId : String) : Prop :=
  (log.orderedMessages channelId).length ≤ 1 ∨
    (∀ m ∈ log.orderedMessages channelId, ¬ m.Fragmented) ∧
      (log.orderedMessages channelId).flatMap (·.packets) <:+ log.created

section

variable {sender receiver s : Session} {opening : Packet} {log : CallLog} {channelId : String}

/-- The numbers of messages of one packet that nothing came after. -/
theorem suffix_numbers (hsend : Machine.Run Session.call sender log s) {ms : List Message}
    (hok : ∀ m ∈ ms, m.OK) (hwhole : ∀ m ∈ ms, ¬ m.Fragmented)
    (hsuffix : ms.flatMap (·.packets) <:+ log.created) :
    ∃ base, base + ms.length = s.nextSequence.toNat ∧
      ∀ (i : Nat) (m : Message), ms[i]? = some m → m.first.toNat = base + i := by
  obtain ⟨earlier, hearlier⟩ := hsuffix
  have hone : ∀ m ∈ ms, m.packets.map (fun p => p.sequence.toNat) = [m.first.toNat] := by
    intro m hm
    have hpos := List.length_pos_iff.mpr (hok m hm).nonempty
    have hlt : ¬ 2 ≤ m.packets.length := hwhole m hm
    obtain ⟨p, hp⟩ := List.length_eq_one_iff.mp (show m.packets.length = 1 by omega)
    have hsequence := (hok m hm).sequence 0 p (by rw [hp]; rfl)
    rw [hp, List.map_singleton, hsequence]
    rfl
  have hmap : (ms.flatMap (·.packets)).map (fun p => p.sequence.toNat)
      = ms.map (·.first.toNat) := by
    rw [List.map_flatMap, List.flatMap_congr hone]
    exact List.flatMap_pure_eq_map (fun m : Message => m.first.toNat) ms
  have hlength : (ms.flatMap (·.packets)).length = ms.length := by
    have hsame := congrArg List.length hmap
    rw [List.length_map, List.length_map] at hsame
    exact hsame
  have hnumbers := numbers_of_run hsend
  have hnext := hnumbers.nextSequence
  have hsequences := hnumbers.sequences
  rw [← hearlier, List.length_append, hlength] at hnext
  rw [← hearlier, List.map_append, hmap, List.length_append, hlength, ← List.range'_append_1] at hsequences
  have hlast := List.append_inj_right hsequences (by rw [List.length_map, List.length_range'])
  refine ⟨sender.nextSequence.toNat + earlier.length, by omega, ?_⟩
  intro i m hm
  obtain ⟨hlt, -⟩ := List.getElem?_eq_some_iff.mp hm
  have hget := congrArg (fun l => l[i]?) hlast
  rw [List.getElem?_map, hm, List.getElem?_range' hlt] at hget
  simpa using hget

/-- The keys of such messages, up to the end. -/
theorem BackToBack.keys_of_numbers {low high base : Nat} {ms : List Message}
    (h : BackToBack low high ms) (hwhole : ∀ m ∈ ms, ¬ m.Fragmented)
    (hnumbers : ∀ (i : Nat) (m : Message), ms[i]? = some m → m.first.toNat = base + i) :
    ∀ i, i ≤ ms.length → 0 < ms.length → (key ms i).toNat = base + i := by
  intro i hi hlength
  rcases Nat.lt_or_eq_of_le hi with hlt | rfl
  · have hget : ms[i]? = some ms[i] := List.getElem?_eq_getElem hlt
    rw [key_of_get hget]
    exact hnumbers i _ hget
  · have hlt : ms.length - 1 < ms.length := by omega
    have hplace : ms.length - 1 + 1 = ms.length := by omega
    obtain ⟨m, hget⟩ : ∃ m, ms[ms.length - 1]? = some m := ⟨_, List.getElem?_eq_getElem hlt⟩
    have hmem := List.mem_iff_getElem?.mpr ⟨_, hget⟩
    have hpos := List.length_pos_iff.mpr (h.ok m hmem).nonempty
    have hshort : ¬ 2 ≤ m.packets.length := hwhole m hmem
    have hsucc := h.key_succ hget
    rw [key_of_get hget, hnumbers _ m hget, hplace] at hsucc
    omega

theorem NotOvertaken.backToBack (h : NotOvertaken log channelId)
    (hopened : Opened sender receiver opening)
    (hsend : Machine.Run Session.call sender log s) :
    BackToBack sender.nextSequence.toNat s.nextSequence.toNat
      (log.orderedMessages channelId) := by
  have hok : ∀ m ∈ log.orderedMessages channelId, m.OK := by
    intro m hm
    exact (messagesOK_of_run hsend hopened.fragmentIds).ok m (mem_orderedMessages.mp hm).1
  have hbetween : ∀ m ∈ log.orderedMessages channelId,
      m.Between sender.nextSequence.toNat s.nextSequence.toNat := by
    intro m hm
    exact message_between hsend hopened.fragmentIds (mem_orderedMessages.mp hm).1
  refine ⟨hok, hbetween, ?_⟩
  intro i m m' hm hm'
  obtain ⟨hlt, -⟩ := List.getElem?_eq_some_iff.mp hm'
  rcases h with hone | ⟨hwhole, hsuffix⟩
  · omega
  · obtain ⟨base, -, hnumbers⟩ := suffix_numbers hsend hok hwhole hsuffix
    have hmem := List.mem_iff_getElem?.mpr ⟨i, hm⟩
    have hstop := (hbetween m hmem).stop
    have hpos := List.length_pos_iff.mpr (hok m hmem).nonempty
    have hshort : ¬ 2 ≤ m.packets.length := hwhole m hmem
    have hfirst := hnumbers i m hm
    have hfirst' := hnumbers (i + 1) m' hm'
    rw [← UInt32.toNat_inj]
    omega

/-- The stream of a channel that is not overtaken begins with its first message or below it. -/
theorem NotOvertaken.begins (h : NotOvertaken log channelId)
    (hopened : Opened sender receiver opening)
    (hsend : Machine.Run Session.call sender log s) :
    Begins (opening :: log.created) opening (log.orderedMessages channelId)
      (fun i => i = 0) True := by
  intro connectionId rlog r j m p hline hj hp hnew hall hnone
  have hchain := h.backToBack hopened hsend
  obtain ⟨hlt, -⟩ := List.getElem?_eq_some_iff.mp hj
  have hkey : BackToBack.key (log.orderedMessages channelId) j = m.first :=
    BackToBack.key_of_get hj
  obtain ⟨highest, hhighest, -, -, hhigh, hexpected⟩ := hline.expected hopened hsend p
  have hlow : (min (r.expectedSequence p) m.first).toNat
      ≤ (BackToBack.key (log.orderedMessages channelId) 0).toNat := by
    rw [min_toNat]
    rcases h with hone | ⟨hwhole, hsuffix⟩
    · rw [show j = 0 by omega] at hkey
      rw [hkey]
      omega
    · -- every number from the first message on belongs to a message that has not come in
      obtain ⟨base, hbase, hnumbers⟩ := suffix_numbers hsend hchain.ok hwhole hsuffix
      have hkeys := hchain.keys_of_numbers hwhole hnumbers
      have hzero := hkeys 0 (Nat.zero_le _) (by omega)
      rw [hzero, hexpected]
      rcases not_received hchain (Nat.le_refl _) (fun i hi => hkeys i hi (by omega)) hnone
        hhighest with hbelow | habove
      · omega
      · omega
  by_cases hequal : min (r.expectedSequence p) m.first
      = BackToBack.key (log.orderedMessages channelId) 0
  · exact Or.inr ⟨0, Nat.zero_le j, rfl, hequal⟩
  · refine Or.inl ⟨trivial, ?_⟩
    intro i hi
    have hle := hchain.key_add_le (i := 0) i (by omega)
    rw [Nat.zero_add] at hle
    have hne : (min (r.expectedSequence p) m.first).toNat
        ≠ (BackToBack.key (log.orderedMessages channelId) 0).toNat := by
      intro hsame
      exact hequal (UInt32.toNat_inj.mp hsame)
    rw [UInt32.lt_iff_toNat_lt]
    omega

end

/--
**A channel that is not overtaken does not skip.**  Whatever part of what `side` created the
other side has received, in any order and any number of times, the payloads delivered on the
channel are the first of those that were sent on it.
-/
theorem ordered_never_skips {client server : SessionOptions}
    {connectMs acceptMs acceptedMs : Nat} {connectPayload acceptPayload : List UInt8}
    {est : Established}
    (hest : handshake client server connectMs acceptMs acceptedMs connectPayload acceptPayload
      = some est) (side : Side) {log rlog : CallLog} {s r : Session}
    (hsend : Machine.Run Session.call (est.session side) log s)
    (hreceive : Machine.Run Session.call (est.session side.other) rlog r)
    (harrive : ∀ entry ∈ rlog, entry.1 ≠ .resetPeerState ∧
      ∀ p, entry.1.input? = some p → p = est.opening side ∨ p ∈ log.created)
    {channelId : String}
    (hordered : ∀ m ∈ log.messages, m.channelId = channelId → m.ordered = true)
    (hovertaken : NotOvertaken log channelId) :
    (rlog.delivered.filter (·.channelId = channelId)).map (·.payload)
      <+: (log.messages.filter (·.channelId = channelId)).map (·.payload) := by
  have hopened := handshake_opened hest side
  have hchain := hovertaken.backToBack hopened hsend
  have hmem : ∀ m ∈ log.messages.filter (·.channelId = channelId),
      m ∈ log.orderedMessages channelId := by
    intro m hm
    rw [List.mem_filter] at hm
    have hchannel := of_decide_eq_true hm.2
    exact mem_orderedMessages.mpr ⟨hm.1, hchannel, hordered m hm.1 hchannel⟩
  have hsame : log.messages.filter (·.channelId = channelId)
      = log.orderedMessages channelId := by
    unfold CallLog.orderedMessages
    refine List.filter_congr fun m hm => ?_
    by_cases hchannel : m.channelId = channelId
    · simp [hchannel, hordered m hm hchannel]
    · simp [hchannel]
  have hids : ∀ m ∈ log.orderedMessages channelId, ∀ m' ∈ log.messages,
      m'.channelId = channelId → m.Fragmented → m'.Fragmented →
      m.fragmentId = m'.fragmentId → m = m' := by
    intro m hm m' hm' hchannel hfragmented _ _
    have hin' : m' ∈ log.orderedMessages channelId :=
      mem_orderedMessages.mpr ⟨hm', hchannel, hordered m' hm' hchannel⟩
    rcases hovertaken with hone | ⟨hwhole, -⟩
    · obtain ⟨i, hi⟩ := List.mem_iff_getElem?.mp hm
      obtain ⟨i', hi'⟩ := List.mem_iff_getElem?.mp hin'
      obtain ⟨hlt, -⟩ := List.getElem?_eq_some_iff.mp hi
      obtain ⟨hlt', -⟩ := List.getElem?_eq_some_iff.mp hi'
      rw [show i = i' by omega, hi'] at hi
      exact (Option.some.inj hi).symm
    · exact absurd hfragmented (hwhole m hm)
  obtain ⟨-, out, hprogress, hout⟩ := ordered_run hopened (hopened.traffic hsend hids)
    List.mem_cons_self (fun m hm _ => hmem m hm) (fun m hm => (mem_orderedMessages.mp hm).2.2)
    hchain (hovertaken.begins hopened hsend) hreceive (by
      intro entry hentry
      refine ⟨(harrive entry hentry).1, fun p hp => ?_⟩
      rw [List.mem_cons]
      exact (harrive entry hentry).2 p hp)
  have hflags : ∀ p ∈ est.opening side :: log.created, p.packetType = .data →
      p.channelId = channelId → p.ordered = true := by
    intro p hp htype hchannel
    obtain ⟨m, hm, hpm⟩ := (hopened.traffic hsend hids).covers p hp htype hchannel
    obtain ⟨hlogged, -, hflag⟩ := mem_orderedMessages.mp (hmem m hm)
    rw [((messagesOK_of_run hsend hopened.fragmentIds).ok m hlogged).ordered p hpm]
    exact hflag
  have hpayloads : ∀ ms : List Message,
      (ms.map Message.frame).map (·.payload) = ms.map (·.payload) := by
    intro ms
    rw [List.map_map]
    rfl
  rw [hsame, hout hflags, ← hpayloads]
  refine List.IsPrefix.map _ ?_
  cases hprogress with
  | idle _ _ _ => exact List.nil_prefix
  | stuck low _ _ _ => exact List.nil_prefix
  | serving i₀ i hstart _ hserves =>
      rw [hstart, hchain.stretch_frames hserves.le]
      exact (List.take_prefix i _).map _

/-- A Ping and the second of two messages arrive first: the second message comes out alone. -/
theorem ordered_channel_skips :
    ∃ (est : Established) (log : CallLog) (s : Session) (rlog : CallLog) (r : Session),
      handshake {} {} 0 0 0 [] [] = some est ∧
      Machine.Run Session.call (est.session .left) log s ∧
      Machine.Run Session.call (est.session .right) rlog r ∧
      log.map Prod.fst = [chat 1, chat 2, .createPing []] ∧
      rlog.map Prod.fst = ((log.created.drop 1).reverse.map fun p => Call.receive p 0) ∧
      ¬ (rlog.delivered.filter (·.channelId = "chat")).map (·.payload)
        <+: (log.messages.filter (·.channelId = "chat")).map (·.payload) := by
  have hruns : ((handshake {} {} 0 0 0 [] []).any fun est =>
      (Machine.exec Session.call (est.session .left)
        [chat 1, chat 2, .createPing []]).any fun sent =>
        (Machine.exec Session.call (est.session .right)
          (((CallLog.created sent.1).drop 1).reverse.map fun p => Call.receive p 0)).any
          fun received =>
            decide (¬ ((CallLog.delivered received.1).filter (·.channelId = "chat")).map
                (·.payload)
              <+: ((CallLog.messages sent.1).filter (·.channelId = "chat")).map (·.payload)))
      = true := by
    decide +kernel
  obtain ⟨est, log, s, rlog, r, hest, hsend, hreceive, hsends, hreceives, hcheck⟩ :=
    runs_of_any hruns
  exact ⟨est, log, s, rlog, r, hest, hsend, hreceive, hsends, hreceives,
    of_decide_eq_true hcheck⟩

/-- Two messages and nothing after them, of which only the second has arrived. -/
theorem ordered_never_skips_second :
    ∃ log rlog : CallLog,
      rlog.map Prod.fst = ((log.created.drop 1).map fun p => Call.receive p 0) ∧
      (rlog.delivered.filter (·.channelId = "chat")).map (·.payload) <+: [[1], [2]] := by
  have hruns : ((handshake {} {} 0 0 0 [] []).any fun est =>
      (Machine.exec Session.call (est.session .left) [chat 1, chat 2]).any
        fun (sent : CallLog × Session) =>
        (Machine.exec Session.call (est.session .right)
          (((CallLog.created sent.1).drop 1).map fun p => Call.receive p 0)).any fun _ =>
          decide ((∀ m ∈ CallLog.messages sent.1, m.ordered = true) ∧
            (∀ m ∈ CallLog.orderedMessages sent.1 "chat", ¬ m.Fragmented) ∧
            (CallLog.orderedMessages sent.1 "chat").flatMap (·.packets)
              = CallLog.created sent.1 ∧
            ((CallLog.messages sent.1).filter (·.channelId = "chat")).map (·.payload)
              = [[1], [2]])) = true := by
    decide +kernel
  obtain ⟨est, log, s, rlog, r, hest, hsend, hreceive, hsends, hreceives, hcheck⟩ :=
    runs_of_any hruns
  obtain ⟨hordered, hwhole, hpackets, hpayloads⟩ := of_decide_eq_true hcheck
  refine ⟨log, rlog, hreceives, ?_⟩
  rw [← hpayloads]
  refine ordered_never_skips hest .left hsend hreceive ?_ (fun m hm _ => hordered m hm)
    (Or.inr ⟨hwhole, ?_⟩)
  · intro entry hentry
    obtain ⟨hreset, hinput⟩ := receives_only hreceives entry hentry
    exact ⟨hreset, fun p hp => Or.inr (List.mem_of_mem_drop (hinput p hp))⟩
  · rw [hpackets]

end CultNet.Rudp

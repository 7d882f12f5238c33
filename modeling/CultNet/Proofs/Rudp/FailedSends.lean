/-
What a failing `send_packet` leaves behind.

Both loops over `send_packet` leave at the first error, and by then the session has
booked the whole list: `due_resends` has marked every due packet as sent, and
`send_many` has entered every packet of the message.  So a failing packet takes the
ones behind it with it: a poll marks packets that it never hands to the socket, and a
send that reports an error goes on in the background.  How far the loops get depends on
where in the list the failing packet stands, and that is what the conditions say.
-/
import CultNet.Proofs.Rudp.Resend
import CultNet.Proofs.Rudp.Socket

namespace CultNet.Rudp

namespace Connection

/-! ### What is handed to the socket -/

/-- The socket takes the packet: it can be written, and `send_to` says how much of it it took. -/
def Takes (c : Connection) (packet : Packet) (sendTo : Except String Nat) : Prop :=
  (c.datagram? packet).isSome ∧ ∃ n, sendTo = .ok n

/-- A packet that the socket takes goes out. -/
theorem sendPacket_taken {c : Connection} {packet : Packet} {sendTo : Except String Nat}
    (h : c.Takes packet sendTo) : (c.sendPacket packet sendTo).result = .ok () ∧
      (c.sendPacket packet sendTo).sent = (c.datagram? packet).toList := by
  obtain ⟨hdatagram, n, rfl⟩ := h
  unfold datagram? at hdatagram ⊢
  unfold sendPacket
  cases hremote : c.remoteAddr with
  | none => simp [hremote] at hdatagram
  | some remoteAddr =>
      cases hencode : encodeRudpPacket packet with
      | error message => simp [hremote, hencode] at hdatagram
      | ok wire => exact ⟨rfl, rfl⟩

/-- With one that it does not take, `send_packet` fails. -/
theorem sendPacket_failed {c : Connection} {packet : Packet} {sendTo : Except String Nat}
    (h : ¬ c.Takes packet sendTo) : (∃ fault, (c.sendPacket packet sendTo).result = .error fault) ∧
      (c.sendPacket packet sendTo).sent = [] := by
  unfold Takes datagram? at h
  unfold sendPacket
  cases hremote : c.remoteAddr with
  | none => exact ⟨⟨_, rfl⟩, rfl⟩
  | some remoteAddr =>
      cases hencode : encodeRudpPacket packet with
      | error message => exact ⟨⟨_, rfl⟩, rfl⟩
      | ok wire =>
          cases sendTo with
          | error message => exact ⟨⟨_, rfl⟩, rfl⟩
          | ok n => exact absurd ⟨by rw [hremote, hencode]; rfl, n, rfl⟩ h

/-- The rest of the loop is about the same connection, as far as `send_to` goes. -/
theorem datagram?_sendPacket (c : Connection) (packet : Packet) (sendTo : Except String Nat) :
    (c.sendPacket packet sendTo).connection.datagram? = c.datagram? := by
  obtain ⟨bytesSent, hconnection⟩ := (sendPacket_sends c packet sendTo).connection
  rw [hconnection]
  rfl

theorem handsOver_cons_taken {c : Connection} {packet : Packet} {sendTo : SendTo} {index : Nat}
    (h : c.Takes packet (sendTo index)) (rest : List Packet) :
    c.handsOver sendTo index (packet :: rest) = packet ::
      (c.sendPacket packet (sendTo index)).connection.handsOver sendTo (index + 1) rest := by
  rw [handsOver, (sendPacket_taken h).1, if_pos h.1]

theorem handsOver_cons_failed {c : Connection} {packet : Packet} {sendTo : SendTo} {index : Nat}
    (h : ¬ c.Takes packet (sendTo index)) (rest : List Packet) :
    c.handsOver sendTo index (packet :: rest) =
      if (c.datagram? packet).isSome then [packet] else [] := by
  obtain ⟨⟨fault, hfault⟩, -⟩ := sendPacket_failed h
  rw [handsOver, hfault]

/-- **The packets handed over** are those that can be written and come after packets that the
socket has taken. -/
theorem mem_handsOver {sendTo : SendTo} {packets : List Packet} : ∀ {c : Connection} {index : Nat}
    {p : Packet}, p ∈ c.handsOver sendTo index packets ↔
      ∃ i, packets[i]? = some p ∧ (c.datagram? p).isSome ∧
        ∀ j q, j < i → packets[j]? = some q → c.Takes q (sendTo (index + j)) := by
  induction packets with
  | nil =>
      intro c index p
      simp [handsOver]
  | cons packet rest ih =>
      intro c index p
      by_cases htakes : c.Takes packet (sendTo index)
      · rw [handsOver_cons_taken htakes, List.mem_cons, ih]
        unfold Takes at htakes ⊢
        rw [datagram?_sendPacket]
        constructor
        · rintro (rfl | ⟨i, hp, hdatagram, hbefore⟩)
          · exact ⟨0, rfl, htakes.1, fun j q hj => absurd hj (Nat.not_lt_zero j)⟩
          · refine ⟨i + 1, hp, hdatagram, fun j q hj hq => ?_⟩
            cases j with
            | zero =>
                rw [← Option.some.inj hq]
                exact htakes
            | succ j =>
                rw [show index + (j + 1) = index + 1 + j by omega]
                exact hbefore j q (by omega) hq
        · rintro ⟨i, hp, hdatagram, hbefore⟩
          cases i with
          | zero => exact Or.inl (Option.some.inj hp).symm
          | succ i =>
              refine Or.inr ⟨i, hp, hdatagram, fun j q hj hq => ?_⟩
              rw [show index + 1 + j = index + (j + 1) by omega]
              exact hbefore (j + 1) q (by omega) hq
      · -- the loop leaves here
        rw [handsOver_cons_failed htakes]
        constructor
        · intro hp
          split at hp
          · rename_i hdatagram
            obtain rfl := List.mem_singleton.mp hp
            exact ⟨0, rfl, hdatagram, fun j q hj => absurd hj (Nat.not_lt_zero j)⟩
          · cases hp
        · rintro ⟨i, hp, hdatagram, hbefore⟩
          cases i with
          | zero =>
              obtain rfl := Option.some.inj hp
              rw [if_pos hdatagram]
              exact List.mem_singleton_self packet
          | succ i => exact absurd (hbefore 0 packet (Nat.succ_pos i) rfl) htakes

/-- What was handed over went out, but for a last datagram that the socket refused. -/
theorem handsOver_sent {sendTo : SendTo} {packets : List Packet} : ∀ {c : Connection} {index : Nat},
    ∃ refused : List Datagram, refused.length ≤ 1 ∧
      (c.handsOver sendTo index packets).filterMap c.datagram? =
        (c.sendPackets sendTo index packets).sent ++ refused := by
  induction packets with
  | nil =>
      intro c index
      exact ⟨[], Nat.zero_le 1, rfl⟩
  | cons packet rest ih =>
      intro c index
      unfold sendPackets
      dsimp only
      by_cases htakes : c.Takes packet (sendTo index)
      · obtain ⟨hok, hsent⟩ := sendPacket_taken htakes
        obtain ⟨d, hd⟩ := Option.isSome_iff_exists.mp htakes.1
        obtain ⟨refused, hlength, hrest⟩ :=
          @ih (c.sendPacket packet (sendTo index)).connection (index + 1)
        rw [datagram?_sendPacket] at hrest
        refine ⟨refused, hlength, ?_⟩
        rw [handsOver_cons_taken htakes, List.filterMap_cons, hd, hok, hsent, hd]
        dsimp only
        rw [hrest]
        rfl
      · obtain ⟨⟨fault, hfault⟩, hsent⟩ := sendPacket_failed htakes
        refine ⟨(c.datagram? packet).toList, Option.length_toList_le, ?_⟩
        rw [handsOver_cons_failed htakes, hfault, hsent]
        cases hd : c.datagram? packet <;> simp [hd]

/-! ### A poll -/

/-- The packets that `poll_resends` hands to the socket. -/
def pollHandsOver (c : Connection) (nowMs : Nat) (sendTo : SendTo) : List Packet :=
  { c with session := (c.session.dueResends nowMs).2 }.handsOver sendTo 0
    (c.session.dueResends nowMs).1

/-- A poll that starves no packet: what it marks as sent was handed to the socket, and so was
everything due that can be written. -/
structure PollSends (c : Connection) (nowMs : Nat) (sendTo : SendTo) : Prop where
  advanced : ∀ (k : UInt32) (e e' : PendingReliablePacket),
    c.session.pendingReliable[k]? = some e →
    (c.pollResends nowMs sendTo).connection.session.pendingReliable[k]? = some e' →
    e.lastSentAtMs < e'.lastSentAtMs → e.packet ∈ c.pollHandsOver nowMs sendTo
  unstarved : ∀ e ∈ c.session.dueEntries nowMs, (c.datagram? e.packet).isSome →
    e.packet ∈ c.pollHandsOver nowMs sendTo

/-- No due packet fails in front of another: one that was last sent before the poll can be
written, and in front of one that can be written the socket takes every due packet. -/
def NoneInFront (c : Connection) (nowMs : Nat) (sendTo : SendTo) : Prop :=
  ∀ i e, (c.session.dueEntries nowMs)[i]? = some e →
    e.lastSentAtMs < nowMs ∨ (c.datagram? e.packet).isSome →
    (c.datagram? e.packet).isSome ∧
      ∀ j e', j < i → (c.session.dueEntries nowMs)[j]? = some e' → c.Takes e'.packet (sendTo j)

/-- How a poll leaves what was pending. -/
theorem pollResends_pending (c : Connection) (nowMs : Nat) (sendTo : SendTo) (k : UInt32) :
    (c.pollResends nowMs sendTo).connection.session.pendingReliable[k]? =
      (c.session.livePending nowMs)[k]?.map fun e =>
        if c.session.resendDue nowMs e then { e with lastSentAtMs := nowMs } else e := by
  obtain ⟨bytesSent, hconnection⟩ := (sendPackets_sends sendTo (c.session.dueResends nowMs).1
    { c with session := (c.session.dueResends nowMs).2 } 0).connection
  have hsession : (c.pollResends nowMs sendTo).connection.session
      = (c.session.dueResends nowMs).2 := congrArg Connection.session hconnection
  rw [hsession]
  exact Std.ExtTreeMap.getElem?_map

/-- A poll hands over exactly the due packets that come after taken ones and can be written. -/
theorem mem_pollHandsOver {c : Connection} (hn : Session.Numbered c.session) {nowMs : Nat}
    {sendTo : SendTo} {i : Nat} {e : PendingReliablePacket}
    (he : (c.session.dueEntries nowMs)[i]? = some e) :
    e.packet ∈ c.pollHandsOver nowMs sendTo ↔ (c.datagram? e.packet).isSome ∧
      ∀ j e', j < i → (c.session.dueEntries nowMs)[j]? = some e' →
        c.Takes e'.packet (sendTo j) := by
  have hat : ((c.session.dueEntries nowMs).map (·.packet))[i]? = some e.packet := by
    rw [List.getElem?_map, he]
    rfl
  have hascending := Session.dueEntries_ascending hn nowMs
  unfold pollHandsOver
  rw [mem_handsOver, Session.dueResends_eq hn]
  constructor
  · rintro ⟨i', hi', hdatagram, hbefore⟩
    -- the packet stands at one place only
    have hnodup : ((c.session.dueEntries nowMs).map (·.packet)).Nodup :=
      hascending.imp fun {p q} hlt heq => by
        rw [heq] at hlt
        exact UInt32.lt_irrefl q.sequence hlt
    obtain ⟨hlength, -⟩ := List.getElem?_eq_some_iff.mp hi'
    obtain rfl := (List.getElem?_inj hlength hnodup).mp (hi'.trans hat.symm)
    refine ⟨hdatagram, fun j e' hj he' => ?_⟩
    have htakes := hbefore j e'.packet hj (by rw [List.getElem?_map, he']; rfl)
    rwa [Nat.zero_add] at htakes
  · rintro ⟨hdatagram, hbefore⟩
    refine ⟨i, hat, hdatagram, fun j q hj hq => ?_⟩
    rw [List.getElem?_map, Option.map_eq_some_iff] at hq
    obtain ⟨e', he', rfl⟩ := hq
    rw [Nat.zero_add]
    exact hbefore j e' hj he'

/--
**When a poll starves no packet.**  Wherever a connection has got and whatever fails, a poll
marks only what it hands to the socket, and hands over everything due that can be written,
exactly if no due packet fails in front of another.
-/
theorem pollSends_iff {options : SocketTransportOptions} {log : ConnectionLog} {c : Connection}
    (hrun : Machine.Run Connection.call (Connection.new options) log c) (nowMs : Nat)
    (sendTo : SendTo) : c.PollSends nowMs sendTo ↔ c.NoneInFront nowMs sendTo := by
  obtain ⟨calls, hcalls⟩ := exists_session_run hrun
  have hn : Session.Numbered c.session :=
    hcalls.invariant (Session.numbered_new _) fun s call out s' hs hstep => hs.step hstep
  constructor
  · intro h i e he hwhen
    have hmem := List.mem_of_getElem? he
    refine (mem_pollHandsOver hn he).mp ?_
    rcases hwhen with hearlier | hdatagram
    · obtain ⟨k, hk, hlive, hdue⟩ := Session.mem_dueEntries.mp hmem
      refine h.advanced k e { e with lastSentAtMs := nowMs } hk ?_ hearlier
      rw [pollResends_pending, Session.livePending_eq_some.mpr ⟨hk, hlive⟩, Option.map_some,
        if_pos hdue]
    · exact h.unstarved e hmem hdatagram
  · intro h
    refine ⟨?_, ?_⟩
    · intro k e e' hk he' hlater
      rw [pollResends_pending, Option.map_eq_some_iff] at he'
      obtain ⟨old, hold, rfl⟩ := he'
      obtain ⟨hk', hlive⟩ := Session.livePending_eq_some.mp hold
      obtain rfl := Option.some.inj (hk.symm.trans hk')
      split at hlater
      · rename_i hdue
        obtain ⟨i, hi⟩ := List.getElem?_of_mem (Session.mem_dueEntries.mpr ⟨k, hk, hlive, hdue⟩)
        exact (mem_pollHandsOver hn hi).mpr (h i e hi (Or.inl hlater))
      · exact absurd hlater (Nat.lt_irrefl _)
    · intro e hmem hdatagram
      obtain ⟨i, hi⟩ := List.getElem?_of_mem hmem
      exact (mem_pollHandsOver hn hi).mpr (h i e hi (Or.inr hdatagram))

/-- A client that has sent two messages on the channel `schema`, at 0. -/
def twoSent : List (ConnectionCall × SendTo) :=
  [(.assumeConnected 0, fun _ => .ok 0), (.send "schema" [7] 0, fun _ => .ok 0),
    (.send "schema" [8] 0, fun _ => .ok 0)]

/-- Where the socket takes both again, none is starved. -/
theorem pollSends_iff_taken :
    ∃ log c, Machine.Run Connection.call (new (.client (.v4 1 9000) 7)) log c ∧
      (c.session.dueEntries 250).length = 2 ∧ c.PollSends 250 fun _ => .ok 0 := by
  have hexec : ((Machine.exec Connection.call (new (.client (.v4 1 9000) 7)) twoSent).any fun r =>
      decide ((r.2.session.dueEntries 250).length = 2) &&
        (r.2.session.dueEntries 250).all fun e => (r.2.datagram? e.packet).isSome) = true := by
    decide +kernel
  obtain ⟨log, c, hrun, -, hcheck⟩ := Machine.Run.of_exec_any hexec
  rw [Bool.and_eq_true, decide_eq_true_eq, List.all_eq_true] at hcheck
  refine ⟨log, c, hrun, hcheck.1, (pollSends_iff hrun 250 fun _ => .ok 0).mpr ?_⟩
  intro i e he _
  refine ⟨hcheck.2 e (List.mem_of_getElem? he), fun j e' _ he' => ?_⟩
  exact ⟨hcheck.2 e' (List.mem_of_getElem? he'), 0, rfl⟩

/-- The socket refuses the first of the two: the second is marked as sent at 250 and was never
handed over, and the next poll does not find it due. -/
theorem pollSends_starved :
    ∃ log c, Machine.Run Connection.call (new (.client (.v4 1 9000) 7)) log c ∧
      (∃ (k : UInt32) (e e' : PendingReliablePacket), c.session.pendingReliable[k]? = some e ∧
        (c.pollResends 250 fun _ => .error "refused").connection.session.pendingReliable[k]?
          = some e' ∧ e.lastSentAtMs < e'.lastSentAtMs ∧
        (c.datagram? e.packet).isSome ∧
        e.packet ∉ c.pollHandsOver 250 fun _ => .error "refused") ∧
      (¬ c.PollSends 250 fun _ => .error "refused") ∧
      ((c.pollResends 250 fun _ => .error "refused").connection.session.dueResends 300).1 = [] := by
  have hexec : ((Machine.exec Connection.call (new (.client (.v4 1 9000) 7)) twoSent).any fun r =>
      ((r.2.session.pendingReliable[(2 : UInt32)]?).any fun e =>
        ((r.2.pollResends 250 fun _ => .error "refused").connection.session.pendingReliable[
          (2 : UInt32)]?).any fun e' =>
            decide (e.lastSentAtMs < e'.lastSentAtMs ∧ (r.2.datagram? e.packet).isSome ∧
              e.packet ∉ r.2.pollHandsOver 250 fun _ => .error "refused")) &&
        decide (((r.2.pollResends 250 fun _ => .error "refused").connection.session.dueResends
          300).1 = [])) = true := by
    decide +kernel
  obtain ⟨log, c, hrun, -, hcheck⟩ := Machine.Run.of_exec_any hexec
  rw [Bool.and_eq_true, decide_eq_true_eq] at hcheck
  obtain ⟨hpending, hquiet⟩ := hcheck
  obtain ⟨e, he, hafter⟩ := (Option.any_eq_true _ _).mp hpending
  obtain ⟨e', he', hboth⟩ := (Option.any_eq_true _ _).mp hafter
  obtain ⟨hlater, hdatagram, hnot⟩ := of_decide_eq_true hboth
  exact ⟨log, c, hrun, ⟨2, e, e', he, he', hlater, hdatagram, hnot⟩,
    fun h => hnot (h.advanced 2 e e' he he' hlater), hquiet⟩

end Connection

namespace Session

/-! ### What a refused message needs -/

/-- The packets that `send_many` splits a payload into. -/
def packetCount (payload : List UInt8) : Option Nat → Nat
  | some limit => if limit < payload.length then divCeil payload.length limit else 1
  | none => 1

/-- The session does not take the message: the fragment size is zero, there are too many
fragments, or the packets that are to be kept find no room beside those still pending. -/
def Refuses (s : Session) (payload : List UInt8) (options : SendOptions)
    (maxFragmentBytes : Option Nat) : Prop :=
  maxFragmentBytes = some 0 ∨ u16Max < packetCount payload maxFragmentBytes ∨
    options.reliable = true ∧ ∃ limit, s.maxPendingReliablePackets = some limit ∧
      limit < (s.livePending options.nowMs).size + packetCount payload maxFragmentBytes

theorem ensureReliableCapacity_ok_iff {s : Session} {count : Nat} (hpos : 0 < count)
    (reliable : Bool) : s.ensureReliableCapacity (if reliable then count else 0) = .ok () ↔
      ¬ (reliable = true ∧ ∃ limit, s.maxPendingReliablePackets = some limit ∧
        limit < s.pendingReliable.size + count) := by
  unfold ensureReliableCapacity
  cases reliable with
  | false => simp
  | true =>
      rw [if_pos rfl, if_neg (Nat.ne_of_gt hpos)]
      cases s.maxPendingReliablePackets with
      | none => simp
      | some limit =>
          by_cases hfull : limit < s.pendingReliable.size + count
          · simp [hfull]
          · simp [hfull]

/-- The session answers a message with an `Err`. -/
def Answers (r : Except Fault (List Packet) × Session) : Prop :=
  ∃ message, r.1 = .error (.error message)

/-- Only a session without room refuses a message in one packet. -/
theorem sendWhole_answers_iff (s : Session) (channelId : String) (payload : List UInt8)
    (options : SendOptions) : Answers (s.sendWhole channelId payload options) ↔
      s.ensureReliableCapacity (if options.reliable then 1 else 0) ≠ .ok () := by
  unfold sendWhole Answers
  cases s.ensureReliableCapacity (if options.reliable then 1 else 0) with
  | error message => simp
  | ok _ =>
      dsimp only
      split
      · rename_i hcreate
        rw [createPacketWithFragments_error hcreate]
        simp
      · simp

theorem sendFragmented_answers_iff (s : Session) (channelId : String) (payload : List UInt8)
    (options : SendOptions) (maxFragmentBytes : Nat) :
    Answers (s.sendFragmented channelId payload options maxFragmentBytes) ↔
      u16Max < divCeil payload.length maxFragmentBytes ∨
        s.ensureReliableCapacity
          (if options.reliable then divCeil payload.length maxFragmentBytes else 0) ≠ .ok () := by
  unfold sendFragmented Answers
  dsimp only
  by_cases hcount : u16Max < divCeil payload.length maxFragmentBytes
  · simp [hcount]
  · rw [if_neg hcount]
    cases s.ensureReliableCapacity
        (if options.reliable then divCeil payload.length maxFragmentBytes else 0) with
    | error message => simp
    | ok _ =>
        dsimp only
        generalize hr : sendFragments channelId payload options maxFragmentBytes _ _ _ _ = r
        obtain ⟨result, t⟩ := r
        cases result with
        | error fault =>
            rw [sendFragments_error hr]
            simp [hcount]
        | ok packets => simp [hcount]

/-- **A connected session refuses exactly what it does not take.** -/
theorem sendMany_answers_iff {s : Session} (hup : s.connected = true) (channelId : String)
    (payload : List UInt8) (options : SendOptions) (maxFragmentBytes : Option Nat) :
    Answers (s.sendMany channelId payload options maxFragmentBytes) ↔
      s.Refuses payload options maxFragmentBytes := by
  have hone : ¬ u16Max < 1 := by decide
  have hroom (count : Nat) (hpos : 0 < count) :
      (s.purgeExpiredReliable options.nowMs).ensureReliableCapacity
        (if options.reliable then count else 0) ≠ .ok () ↔
      options.reliable = true ∧ ∃ limit, s.maxPendingReliablePackets = some limit ∧
        limit < (s.livePending options.nowMs).size + count := by
    rw [ne_eq, ensureReliableCapacity_ok_iff hpos, not_not]
    rfl
  unfold sendMany Refuses packetCount
  rw [hup]
  simp only [Bool.not_true, Bool.false_eq_true, if_false]
  cases maxFragmentBytes with
  | none =>
      rw [sendWhole_answers_iff, hroom 1 Nat.one_pos]
      simp [hone]
  | some limit =>
      dsimp only
      by_cases hzero : limit = 0
      · rw [if_pos hzero, hzero]
        exact iff_of_true ⟨_, rfl⟩ (Or.inl rfl)
      rw [if_neg hzero]
      by_cases hlong : limit < payload.length
      · rw [if_pos hlong, if_pos hlong, sendFragmented_answers_iff,
          hroom _ (Nat.lt_of_lt_of_le Nat.two_pos
            (two_le_divCeil (Nat.pos_of_ne_zero hzero) hlong))]
        simp [hzero]
      · rw [if_neg hlong, if_neg hlong, sendWhole_answers_iff, hroom 1 Nat.one_pos]
        simp [hone, hzero]

/-! ### What a message leaves pending -/

/-- A packet that has been numbered and is not pending. -/
structure Gone (s : Session) (p : Packet) : Prop where
  numbered : p.sequence < s.nextSequence
  absent : ∀ k, ¬ s.Pending k p

/-- What is gone stays gone: only packets with new numbers become pending. -/
theorem Gone.step {s s' : Session} {c : Call} {out : Output} {p : Packet} (h : s.Gone p)
    (hcall : s.call c = some (out, s')) : s'.Gone p := by
  have hcreates := (call_effect hcall).1
  refine ⟨?_, ?_⟩
  · have hlt := UInt32.lt_iff_toNat_lt.mp h.numbered
    rw [UInt32.lt_iff_toNat_lt, hcreates.nextSequence]
    omega
  · intro k hp
    rcases hcreates.pending k p hp with hold | ⟨hmem, -⟩
    · exact h.absent k hold
    · exact absurd h.numbered (UInt32.not_lt.mpr (hcreates.toNumbers.nextSequence_le hmem))

/-- What is gone is never due. -/
theorem Gone.not_due {s : Session} {p : Packet} (h : s.Gone p) (nowMs : Nat) :
    p ∉ (s.dueResends nowMs).1 := by
  intro hp
  obtain ⟨k, e, hk, -, -, rfl⟩ := mem_dueResends.mp hp
  exact h.absent k ⟨e, hk, rfl⟩

theorem enter_cons (options : SendOptions) (pending : PendingMap) (p : Packet)
    (rest : List Packet) : options.enter pending (p :: rest) = options.enter
      (if p.reliable then pending.insert p.sequence (options.entry p) else pending) rest := rfl

/-- Entering packets with other numbers leaves an entry alone. -/
theorem getElem?_enter_other {options : SendOptions} {packets : List Packet} :
    ∀ {pending : PendingMap} {k : UInt32}, (∀ p ∈ packets, p.sequence ≠ k) →
      (options.enter pending packets)[k]? = pending[k]? := by
  induction packets with
  | nil => intro pending k _; rfl
  | cons p rest ih =>
      intro pending k h
      rw [enter_cons, ih fun q hq => h q (List.mem_cons_of_mem p hq)]
      split
      · rw [OrderedMap.getElem?_insert_eq, if_neg (h p List.mem_cons_self)]
      · rfl

/-- Every reliable packet that is entered is pending, if they have numbers of their own. -/
theorem getElem?_enter_self {options : SendOptions} {packets : List Packet} :
    ∀ {pending : PendingMap}, (packets.map (·.sequence)).Nodup → ∀ p ∈ packets,
      p.reliable = true → (options.enter pending packets)[p.sequence]? = some (options.entry p) := by
  induction packets with
  | nil => intro pending _ p hp; cases hp
  | cons q rest ih =>
      intro pending hnodup p hp hreliable
      rw [List.map_cons, List.nodup_cons] at hnodup
      rw [enter_cons]
      rcases List.mem_cons.mp hp with rfl | hp
      · have hothers : ∀ r ∈ rest, r.sequence ≠ p.sequence := by
          intro r hr heq
          rw [← heq] at hnodup
          exact hnodup.1 (List.mem_map_of_mem hr)
        rw [getElem?_enter_other hothers, if_pos hreliable, Std.ExtTreeMap.getElem?_insert_self]
      · exact ih hnodup.2 p hp hreliable

/-- Created packets have numbers of their own. -/
theorem Numbers.nodup {s s' : Session} {created : List Packet} (h : Numbers s s' created) :
    (created.map (·.sequence)).Nodup := by
  have hnodup : (created.map fun p => p.sequence.toNat).Nodup := by
    rw [h.sequences]
    exact List.nodup_range'
  exact List.Nodup.of_map UInt32.toNat (by rwa [List.map_map])

/-- All packets of a message carry the channel's flag, and there is at least one. -/
theorem Sent.reliable {s : Session} {channelId : String} {payload : List UInt8}
    {options : SendOptions} {maxFragmentBytes : Option Nat} {packets : List Packet}
    (h : Sent s channelId payload options maxFragmentBytes packets) :
    packets ≠ [] ∧ ∀ p ∈ packets, p.reliable = options.reliable := by
  cases h with
  | whole p hpackets hwhole =>
      subst hpackets
      refine ⟨List.cons_ne_nil p [], fun q hq => ?_⟩
      rw [List.mem_singleton.mp hq]
      exact hwhole.reliable
  | fragments limit hlimit hpos hlong hcount hshape =>
      refine ⟨fragments_ne_nil hshape hpos hlong, fun p hp => ?_⟩
      obtain ⟨_, -, hfragment⟩ := Fallible.exists_mem_of_forall₂ hshape p hp
      exact hfragment.reliable

end Session

namespace Connection

/-! ### A send -/

/-- The packets that a call of `send` creates. -/
def sendCreates (c : Connection) (channelId : String) (payload : List UInt8) (nowMs : Nat) :
    List Packet :=
  match (c.session.sendMany channelId payload (c.channelSendOptions channelId nowMs)
      c.maxFragmentBytes).1 with
  | .ok packets => packets
  | .error _ => []

/-- The packets are not pending, and no later poll transmits them. -/
structure Dropped (c : Connection) (packets : List Packet) : Prop where
  absent : ∀ p ∈ packets, ∀ k, ¬ c.session.Pending k p
  silent : ∀ log c', Machine.Run Connection.call c log c' → ∀ p ∈ packets, ∀ nowMs,
    p ∉ (c'.session.dueResends nowMs).1

/-- What is gone is dropped. -/
theorem dropped_of_gone {c : Connection} {packets : List Packet}
    (h : ∀ p ∈ packets, c.session.Gone p) : c.Dropped packets where
  absent := fun p hp => (h p hp).absent
  silent := by
    intro log c' hrun p hp nowMs
    obtain ⟨calls, hcalls⟩ := exists_session_run hrun
    have hkeeps : ∀ (s : Session) call out s', s.Gone p → s.call call = some (out, s') →
        s'.Gone p := fun s call out s' hs hstep => hs.step hstep
    exact (hcalls.invariant (h p hp) hkeeps).not_due nowMs

/-- Whatever becomes of the packets, the session is as `send_many` left it. -/
theorem send_session (c : Connection) (channelId : String) (payload : List UInt8) (nowMs : Nat)
    (sendTo : SendTo) : (c.send channelId payload nowMs sendTo).connection.session =
      (c.session.sendMany channelId payload (c.channelSendOptions channelId nowMs)
        c.maxFragmentBytes).2 := by
  unfold send
  generalize c.session.sendMany channelId payload (c.channelSendOptions channelId nowMs)
    c.maxFragmentBytes = r
  obtain ⟨result, session⟩ := r
  cases result with
  | error fault => rfl
  | ok packets =>
      obtain ⟨bytesSent, hconnection⟩ :=
        (sendPackets_sends sendTo packets { c with session } 0).connection
      dsimp only
      split
      · rw [hconnection]
      · rw [hconnection]

/-- Packets of a message that is not kept are gone as soon as they are created. -/
theorem gone_of_unreliable {s s' : Session} {channelId : String} {payload : List UInt8}
    {options : SendOptions} {maxFragmentBytes : Option Nat} {packets : List Packet}
    (hn : Session.Numbered s) (hunreliable : options.reliable = false)
    (h : s.sendMany channelId payload options maxFragmentBytes = (.ok packets, s')) :
    ∀ p ∈ packets, s'.Gone p := by
  obtain ⟨hsent, hcreates, -⟩ := Session.sendMany_ok h
  intro p hp
  refine ⟨hcreates.toNumbers.lt_nextSequence hp, ?_⟩
  rintro k ⟨e, he, rfl⟩
  rw [(Session.sendMany_enters h).2.1] at he
  rcases Session.getElem?_enter options packets _ k e he with hold | ⟨q, hq, hreliable, -, -⟩
  · -- what was pending before has an older number
    obtain ⟨hk, hlt⟩ := hn k e.packet ⟨e, (Session.livePending_eq_some.mp hold).1, rfl⟩
    rw [← hk] at hlt
    exact UInt32.not_lt.mpr (hcreates.toNumbers.nextSequence_le hp) hlt
  · rw [hsent.reliable.2 q hq, hunreliable] at hreliable
    cases hreliable

/--
**When a failed send is not delivered later.**  A connected connection whose `send` returns
`Err` has dropped the packets of the call exactly if the channel does not keep what it sends,
or the session did not take the message in the first place.
-/
theorem failed_send_dropped_iff {options : SocketTransportOptions} {log : ConnectionLog}
    {c : Connection} (hrun : Machine.Run Connection.call (Connection.new options) log c)
    (hup : c.session.connected = true) {channelId : String} {payload : List UInt8} {nowMs : Nat}
    {sendTo : SendTo} {message : String}
    (herr : (c.send channelId payload nowMs sendTo).result = .error (.error message)) :
    (c.send channelId payload nowMs sendTo).connection.Dropped
        (c.sendCreates channelId payload nowMs) ↔
      (c.channelSendOptions channelId nowMs).reliable = false ∨
        c.session.Refuses payload (c.channelSendOptions channelId nowMs) c.maxFragmentBytes := by
  obtain ⟨calls, hcalls⟩ := exists_session_run hrun
  have hn : Session.Numbered c.session :=
    hcalls.invariant (Session.numbered_new _) fun s call out s' hs hstep => hs.step hstep
  have hsession := c.send_session channelId payload nowMs sendTo
  have hanswers := Session.sendMany_answers_iff hup channelId payload
    (c.channelSendOptions channelId nowMs) c.maxFragmentBytes
  rw [← hanswers]
  unfold Session.Answers sendCreates
  generalize hr : c.session.sendMany channelId payload (c.channelSendOptions channelId nowMs)
    c.maxFragmentBytes = r at hsession
  obtain ⟨result, s'⟩ := r
  cases result with
  | error fault =>
      refine iff_of_true (dropped_of_gone fun p hp => by cases hp) (Or.inr ?_)
      unfold send at herr
      rw [hr] at herr
      cases herr
      exact ⟨message, rfl⟩
  | ok packets =>
      have hnot : ¬ ∃ message, (Except.ok packets : Except Fault _) = .error (.error message) := by
        rintro ⟨_, ⟨⟩⟩
      rw [or_iff_left hnot]
      obtain ⟨hsent, hcreates, -⟩ := Session.sendMany_ok hr
      constructor
      · intro hdropped
        by_contra hreliable
        rw [Bool.not_eq_false] at hreliable
        obtain ⟨p, hp⟩ := List.exists_mem_of_ne_nil packets hsent.reliable.1
        refine hdropped.absent p hp p.sequence ?_
        rw [hsession]
        refine ⟨(c.channelSendOptions channelId nowMs).entry p, ?_, rfl⟩
        rw [(Session.sendMany_enters hr).2.1]
        exact Session.getElem?_enter_self hcreates.toNumbers.nodup p hp
          ((hsent.reliable.2 p hp).trans hreliable)
      · intro hunreliable
        refine dropped_of_gone ?_
        rw [hsession]
        exact gone_of_unreliable hn hunreliable hr

/-- On the channel `latest` nothing is kept, so a send that fails is dropped. -/
theorem failed_send_dropped_latest :
    ∃ log c, Machine.Run Connection.call (new (.client (.v4 1 9000) 7)) log c ∧
      c.session.connected = true ∧
      (c.send "latest" [7] 0 fun _ => .error "refused").result = .error (.error "refused") ∧
      (c.sendCreates "latest" [7] 0).length = 1 ∧
      (c.send "latest" [7] 0 fun _ => .error "refused").connection.Dropped
        (c.sendCreates "latest" [7] 0) := by
  have hexec : ((Machine.exec Connection.call (new (.client (.v4 1 9000) 7))
      [(.assumeConnected 0, fun _ => .ok 0)]).any fun r =>
      decide (r.2.session.connected = true ∧
        (r.2.send "latest" [7] 0 fun _ => .error "refused").result = .error (.error "refused") ∧
        (r.2.sendCreates "latest" [7] 0).length = 1)) = true := by
    decide +kernel
  obtain ⟨log, c, hrun, -, hcheck⟩ := Machine.Run.of_exec_any hexec
  obtain ⟨hup, herr, hlength⟩ := of_decide_eq_true hcheck
  exact ⟨log, c, hrun, hup, herr, hlength,
    (failed_send_dropped_iff hrun hup herr).mpr (Or.inl rfl)⟩

/-- On the channel `schema` the packet of a send that failed is pending, and the next poll
transmits it. -/
theorem failed_send_transmitted :
    ∃ log c, Machine.Run Connection.call (new (.client (.v4 1 9000) 7)) log c ∧
      c.session.connected = true ∧
      (c.send "schema" [7] 0 fun _ => .error "refused").result = .error (.error "refused") ∧
      (¬ (c.send "schema" [7] 0 fun _ => .error "refused").connection.Dropped
        (c.sendCreates "schema" [7] 0)) ∧
      ∃ d ∈ ((c.send "schema" [7] 0 fun _ => .error "refused").connection.pollResends 250
        fun _ => .ok 0).sent, ∃ p, decodeRudpPacket d.wire = .ok p ∧ p.channelId = "schema" ∧
          p.payload = [7] := by
  have hexec : ((Machine.exec Connection.call (new (.client (.v4 1 9000) 7))
      [(.assumeConnected 0, fun _ => .ok 0)]).any fun r =>
      decide (r.2.session.connected = true ∧
        (r.2.send "schema" [7] 0 fun _ => .error "refused").result = .error (.error "refused")) &&
      ((r.2.sendCreates "schema" [7] 0).any fun p => decide (p ∈ ((r.2.send "schema" [7] 0
        fun _ => .error "refused").connection.session.dueResends 250).1)) &&
      (((r.2.send "schema" [7] 0 fun _ => .error "refused").connection.pollResends 250
        fun _ => .ok 0).sent.any fun d => match decodeRudpPacket d.wire with
          | .ok p => p.channelId = "schema" ∧ p.payload = [7]
          | .error _ => false)) = true := by
    decide +kernel
  obtain ⟨log, c, hrun, -, hcheck⟩ := Machine.Run.of_exec_any hexec
  rw [Bool.and_eq_true, Bool.and_eq_true, List.any_eq_true, List.any_eq_true] at hcheck
  obtain ⟨⟨hfirst, p, hp, hdue⟩, d, hd, hdecode⟩ := hcheck
  obtain ⟨hup, herr⟩ := of_decide_eq_true hfirst
  refine ⟨log, c, hrun, hup, herr, fun hdropped => ?_, d, hd, ?_⟩
  · exact hdropped.silent [] _ Machine.Run.nil p hp 250 (of_decide_eq_true hdue)
  · split at hdecode
    · rename_i q hq
      exact ⟨q, hq, of_decide_eq_true hdecode⟩
    · cases hdecode

end Connection

end CultNet.Rudp

/-
What one call does to the pending packets.

A session keeps in `pendingReliable` what it may have to send again.  The calls
that touch it are few: a handshake or a send enters the packets it created, a
received packet takes out those it acknowledges, a send and `due_resends` first
take out those that have expired, and a reset takes out all.  `pendingAfter` says
so, call by call, and `call_pends` is the one place where the calls are taken
apart for it.
-/
import CultNet.Proofs.Rudp.Calls

namespace CultNet.Rudp

/-- The packets a session may have to send again. -/
abbrev PendingMap := Std.ExtTreeMap UInt32 PendingReliablePacket

/-- An entry that `purge_expired_reliable` keeps. -/
def PendingReliablePacket.live (pending : PendingReliablePacket) (nowMs : Nat) : Bool :=
  pending.expiresAtMs.all fun expiresAtMs => nowMs ≤ expiresAtMs

/-- What `track_reliable` enters for a packet. -/
def SendOptions.entry (options : SendOptions) (packet : Packet) : PendingReliablePacket where
  packet
  lastSentAtMs := options.nowMs
  expiresAtMs := options.reliableExpireAfterMs.map fun ttl => saturatingAdd options.nowMs ttl

/-- Enter the reliable ones among some packets. -/
def SendOptions.enter (options : SendOptions) (pending : PendingMap) (packets : List Packet) :
    PendingMap :=
  packets.foldl
    (fun m packet => if packet.reliable then m.insert packet.sequence (options.entry packet) else m)
    pending

/-- A send that splits its payload, once it is let. -/
def Call.fragments : Call → Bool
  | .sendMany _ payload _ (some limit) => 0 < limit && limit < payload.length
  | _ => false

/-- The options under which a call enters what it creates. -/
def Call.options? : Call → Option SendOptions
  | .createConnect nowMs _ | .acceptConnect _ nowMs _ => some (Session.handshakeOptions nowMs)
  | .send _ _ options | .sendMany _ _ options _ => some options
  | _ => none

namespace Session

/-- The fragment id that follows the one handed out. -/
def followingFragmentId (s : Session) : UInt16 := (s.allocateFragmentId).2.nextFragmentId

/-- What is still pending at `nowMs`. -/
def livePending (s : Session) (nowMs : Nat) : PendingMap :=
  s.pendingReliable.filter fun _ pending => pending.live nowMs

/-- The numbers of the packets that have expired at `nowMs`. -/
def expiredAt (s : Session) (nowMs : Nat) : List UInt32 :=
  (s.pendingReliable.toList.filter fun entry => !entry.2.live nowMs).map Prod.fst

/-- What is pending after a call that created `created`. -/
def pendingAfter (s : Session) (created : List Packet) : Call → PendingMap
  | .createConnect nowMs _ => (handshakeOptions nowMs).enter s.pendingReliable created
  | .acceptConnect _ nowMs _ =>
    -- the answer to another Connect of a connected peer is not entered
    if s.connected then s.pendingReliable
    else (handshakeOptions nowMs).enter s.pendingReliable created
  | .send _ _ options | .sendMany _ _ options _ =>
    if s.connected then options.enter (s.livePending options.nowMs) created else s.pendingReliable
  | .receive packet _ =>
    if packet.connectionId = s.connectionId then (s.applyAcknowledgements packet).pendingReliable
    else s.pendingReliable
  | .resetPeerState => ∅
  | .dueResends nowMs => (s.dueResends nowMs).2.pendingReliable
  | .assumeConnected _ | .createAck | .createPing _ | .createDisconnect _ | .checkTimeout _ _ =>
    s.pendingReliable

/-- The numbers of the packets that a call finds expired. -/
def expiredBy (s : Session) : Call → List UInt32
  | .send _ _ options | .sendMany _ _ options _ =>
    if s.connected then s.expiredAt options.nowMs else []
  | .dueResends nowMs => s.expiredAt nowMs
  | _ => []

/-! ### Purging -/

/-- What is still pending was pending and has not expired. -/
theorem livePending_eq_some {s : Session} {nowMs : Nat} {k : UInt32} {e : PendingReliablePacket} :
    (s.livePending nowMs)[k]? = some e ↔
      s.pendingReliable[k]? = some e ∧ e.live nowMs = true := by
  rw [livePending, Std.ExtTreeMap.getElem?_filter', Option.filter_eq_some_iff]

/-- What is purged is counted. -/
theorem expired_purge (s : Session) (nowMs : Nat) :
    (s.purgeExpiredReliable nowMs).reliablePacketsExpired =
      s.reliablePacketsExpired + (s.expiredAt nowMs).length := by
  have hkept : (s.livePending nowMs).size =
      (s.pendingReliable.toList.filter fun entry => entry.2.live nowMs).length := by
    rw [livePending, ← Std.ExtTreeMap.length_toList, Std.ExtTreeMap.toList_filter]
  have hsplit := List.length_eq_length_filter_add (l := s.pendingReliable.toList)
    fun entry => entry.2.live nowMs
  rw [Std.ExtTreeMap.length_toList] at hsplit
  show s.reliablePacketsExpired + (s.pendingReliable.size - (s.livePending nowMs).size) = _
  rw [hkept, expiredAt, List.length_map]
  omega

/-! ### Entering -/

/-- What a call that entered the packets `packets` did to the other counters. -/
structure Enters (options : SendOptions) (s s' : Session) (packets : List Packet) : Prop where
  pending : s'.pendingReliable = options.enter s.pendingReliable packets
  fragmentId : s'.nextFragmentId = s.nextFragmentId
  expired : s'.reliablePacketsExpired = s.reliablePacketsExpired
  delay : s'.resendDelayMs = s.resendDelayMs

/-- One packet, created and then tracked where it is reliable. -/
theorem enters_one {s s' : Session} {options : SendOptions} {t : PacketType} {c : String}
    {payload : List UInt8} {r o q : Bool} {fid fidx fcount : UInt16} {p : Packet}
    (h : s.createPacketWithFragments t c payload r o q fid fidx fcount = (.ok p, s')) :
    Enters options s (if p.reliable = true then s'.trackReliable options p else s') [p] := by
  obtain ⟨-, rfl, rfl⟩ := createPacketWithFragments_ok h
  cases r with
  | true => exact ⟨rfl, rfl, rfl, rfl⟩
  | false => exact ⟨rfl, rfl, rfl, rfl⟩

theorem enters_sendFragments {channelId : String} {payload : List UInt8} {options : SendOptions}
    {maxFragmentBytes : Nat} {fragmentId : UInt16} {fragmentCount : Nat} :
    ∀ {indices : List Nat} {s s' : Session} {packets : List Packet},
      sendFragments channelId payload options maxFragmentBytes fragmentId fragmentCount indices s
          = (.ok packets, s') → Enters options s s' packets := by
  intro indices
  induction indices with
  | nil =>
      intro s s' packets h
      cases h
      exact ⟨rfl, rfl, rfl, rfl⟩
  | cons index rest ih =>
      intro s s' packets h
      simp only [sendFragments] at h
      split at h
      · cases h
      · rename_i p s₁ hcreate
        split at h
        · cases h
        · rename_i tail s₂ hrest
          cases h
          have hone : Enters options s _ [p] := enters_one hcreate
          have htail := ih hrest
          exact ⟨by rw [htail.pending, hone.pending]; rfl,
            htail.fragmentId.trans hone.fragmentId, htail.expired.trans hone.expired,
            htail.delay.trans hone.delay⟩

theorem enters_sendWhole {s s' : Session} {channelId : String} {payload : List UInt8}
    {options : SendOptions} {packets : List Packet}
    (h : s.sendWhole channelId payload options = (.ok packets, s')) :
    Enters options s s' packets := by
  unfold sendWhole at h
  split at h
  · cases h
  · split at h
    · cases h
    · rename_i p s₁ hcreate
      cases h
      exact enters_one hcreate

/-- A split send hands out one fragment id. -/
theorem enters_sendFragmented {s s' : Session} {channelId : String} {payload : List UInt8}
    {options : SendOptions} {maxFragmentBytes : Nat} {packets : List Packet}
    (h : s.sendFragmented channelId payload options maxFragmentBytes = (.ok packets, s')) :
    Enters options (s.allocateFragmentId).2 s' packets := by
  unfold sendFragmented at h
  dsimp only at h
  split at h
  · cases h
  · split at h
    · cases h
    · exact enters_sendFragments h

/-! ### Every call -/

/-- What a call did to the pending packets, the fragment ids and the count of what expired. -/
structure Pends (s : Session) (c : Call) (out : Output) (s' : Session) : Prop where
  pending : s'.pendingReliable = s.pendingAfter out.created c
  fragmentId : s'.nextFragmentId =
    if c.fragments && out.failure.isNone then s.followingFragmentId else s.nextFragmentId
  expired : s'.reliablePacketsExpired = s.reliablePacketsExpired + (s.expiredBy c).length
  delay : s'.resendDelayMs = s.resendDelayMs

/-- A send of a session that is not connected is refused. -/
theorem sendMany_disconnected {s : Session} (hdown : s.connected = false) (channelId : String)
    (payload : List UInt8) (options : SendOptions) (maxFragmentBytes : Option Nat) :
    s.sendMany channelId payload options maxFragmentBytes =
      (.error (.error "Cannot send RUDP data before the session is connected"), s) := by
  unfold sendMany
  rw [hdown]
  rfl

/-- A refused send of a connected session has purged what had expired. -/
theorem sendMany_refused {s s' : Session} {channelId : String} {payload : List UInt8}
    {options : SendOptions} {maxFragmentBytes : Option Nat} {message : String}
    (hup : s.connected = true)
    (h : s.sendMany channelId payload options maxFragmentBytes = (.error (.error message), s')) :
    s' = s.purgeExpiredReliable options.nowMs := by
  unfold sendMany at h
  rw [hup] at h
  simp only [Bool.not_true, Bool.false_eq_true, if_false] at h
  split at h
  · split at h
    · cases h
      rfl
    · split at h
      · exact sendFragmented_error h
      · exact sendWhole_error h
  · exact sendWhole_error h

/-- What a send that is let enters, and which fragment id it leaves behind. -/
theorem sendMany_enters {s s' : Session} {channelId : String} {payload : List UInt8}
    {options : SendOptions} {maxFragmentBytes : Option Nat} {packets : List Packet}
    (h : s.sendMany channelId payload options maxFragmentBytes = (.ok packets, s')) :
    s.connected = true ∧
      s'.pendingReliable = options.enter (s.livePending options.nowMs) packets ∧
      s'.nextFragmentId =
        (if (Call.sendMany channelId payload options maxFragmentBytes).fragments
          then s.followingFragmentId else s.nextFragmentId) ∧
      s'.reliablePacketsExpired =
        s.reliablePacketsExpired + (s.expiredAt options.nowMs).length ∧
      s'.resendDelayMs = s.resendDelayMs := by
  have hpurged := expired_purge s options.nowMs
  cases hup : s.connected with
  | false =>
      rw [sendMany_disconnected hup] at h
      cases h
  | true =>
      unfold sendMany at h
      rw [hup] at h
      simp only [Bool.not_true, Bool.false_eq_true, if_false] at h
      refine ⟨rfl, ?_⟩
      split at h
      · rename_i limit
        split at h
        · cases h
        · rename_i hzero
          split at h
          · rename_i hlong
            have henters := enters_sendFragmented h
            have hfragments : (Call.sendMany channelId payload options (some limit)).fragments =
                true := by
              simp [Call.fragments, Nat.pos_of_ne_zero hzero, hlong]
            rw [if_pos hfragments]
            exact ⟨henters.pending, henters.fragmentId, henters.expired.trans hpurged,
              henters.delay⟩
          · rename_i hshort
            have henters := enters_sendWhole h
            have hwhole : (Call.sendMany channelId payload options (some limit)).fragments =
                false := by
              simp [Call.fragments, hshort]
            rw [hwhole]
            exact ⟨henters.pending, henters.fragmentId, henters.expired.trans hpurged,
              henters.delay⟩
      · have henters := enters_sendWhole h
        exact ⟨henters.pending, henters.fragmentId, henters.expired.trans hpurged, henters.delay⟩

theorem pends_sendMany {s s' : Session} {channelId : String} {payload : List UInt8}
    {options : SendOptions} {maxFragmentBytes : Option Nat} {out : Output}
    (h : s.call (.sendMany channelId payload options maxFragmentBytes) = some (out, s')) :
    Pends s (.sendMany channelId payload options maxFragmentBytes) out s' := by
  rcases toStep_eq_some h with ⟨packets, hr, rfl⟩ | ⟨message, hr, rfl⟩
  · obtain ⟨hup, hpending, hid, hexpired, hdelay⟩ := sendMany_enters hr
    refine ⟨?_, ?_, ?_, hdelay⟩
    · rw [hpending, pendingAfter, if_pos hup]
    · rw [hid]
      simp
    · rw [hexpired, expiredBy, if_pos hup]
  · cases hup : s.connected with
    | false =>
        rw [sendMany_disconnected hup] at hr
        cases hr
        exact ⟨by simp [pendingAfter, hup], by simp, by simp [expiredBy, hup], rfl⟩
    | true =>
        rw [sendMany_refused hup hr]
        refine ⟨?_, by simp; rfl, ?_, rfl⟩
        · rw [pendingAfter, if_pos hup]
          rfl
        · rw [expiredBy, if_pos hup]
          exact expired_purge s options.nowMs

/-- A send that is not split is a send of many with no limit. -/
theorem call_send {s s' : Session} {channelId : String} {payload : List UInt8}
    {options : SendOptions} {out : Output}
    (h : s.call (.send channelId payload options) = some (out, s')) :
    s.call (.sendMany channelId payload options none) = some (out, s') := by
  show toStep _ (s.sendMany channelId payload options none) = _
  rcases toStep_eq_some h with ⟨p, hr, rfl⟩ | ⟨message, hr, rfl⟩
  · rw [send_ok hr]
    rfl
  · unfold send at hr
    split at hr
    · rename_i hrefused
      cases hr
      rw [hrefused]
      rfl
    · rename_i hnone
      obtain ⟨hsent, -, -⟩ := sendMany_ok hnone
      cases hsent with
      | whole q hpackets _ => cases hpackets
      | fragments _ hlimit => cases hlimit
    · cases hr

theorem pends_send {s s' : Session} {channelId : String} {payload : List UInt8}
    {options : SendOptions} {out : Output}
    (h : s.call (.send channelId payload options) = some (out, s')) :
    Pends s (.send channelId payload options) out s' := by
  obtain ⟨hpending, hid, hexpired, hdelay⟩ := pends_sendMany (call_send h)
  exact ⟨hpending, hid, hexpired, hdelay⟩

/-- A call that leaves the sending half alone, as far as what is pending goes. -/
theorem Pends.same {s s' : Session} {c : Call} {out : Output}
    (hpending : s'.pendingReliable = s.pendingAfter out.created c)
    (hfragments : c.fragments = false) (hid : s'.nextFragmentId = s.nextFragmentId)
    (hexpiredBy : s.expiredBy c = [])
    (hexpired : s'.reliablePacketsExpired = s.reliablePacketsExpired)
    (hdelay : s'.resendDelayMs = s.resendDelayMs) : Pends s c out s' where
  pending := hpending
  fragmentId := by rw [hfragments, hid]; rfl
  expired := by rw [hexpiredBy, hexpired]; rfl
  delay := hdelay

theorem pends_createConnect {s s' : Session} {nowMs : Nat} {payload : List UInt8} {out : Output}
    (h : s.call (.createConnect nowMs payload) = some (out, s')) :
    Pends s (.createConnect nowMs payload) out s' := by
  rcases toStep_eq_some h with ⟨p, hr, rfl⟩ | ⟨message, hr, rfl⟩
  · unfold createConnect at hr
    split at hr
    · cases hr
    · split at hr
      · cases hr
      · rename_i hcreate
        cases hr
        obtain ⟨-, rfl, rfl⟩ := createPacketWithFragments_ok hcreate
        exact Pends.same rfl rfl rfl rfl rfl rfl
  · rw [createConnect_error hr]
    exact Pends.same rfl rfl rfl rfl rfl rfl

theorem pends_acceptConnect {s s' : Session} {packet : Packet} {nowMs : Nat}
    {payload : List UInt8} {out : Output}
    (h : s.call (.acceptConnect packet nowMs payload) = some (out, s')) :
    Pends s (.acceptConnect packet nowMs payload) out s' := by
  rcases toStep_eq_some h with ⟨p, hr, rfl⟩ | ⟨message, hr, rfl⟩
  · unfold acceptConnect at hr
    split at hr
    · cases hr
    · split at hr
      · cases hr
      · dsimp only at hr
        split at hr
        · cases hr
        · split at hr
          · cases hr
          · rename_i hcreate
            cases hr
            obtain ⟨-, rfl, rfl⟩ := createPacketWithFragments_ok hcreate
            cases hup : s.connected with
            | true => exact Pends.same (by simp [pendingAfter, hup]; rfl) rfl rfl rfl rfl rfl
            | false => exact Pends.same (by simp [pendingAfter, hup]; rfl) rfl rfl rfl rfl rfl
  · rw [acceptConnect_error hr]
    refine Pends.same ?_ rfl rfl rfl rfl rfl
    show s.pendingReliable = if s.connected then s.pendingReliable else s.pendingReliable
    rw [ite_self]

theorem pends_control {s t s' : Session} {c : Call} {packetType : PacketType}
    {payload : List UInt8} {out : Output}
    (h : toStep (fun packet => { created := [packet] })
      (t.createPacket packetType "control" payload false false false) = some (out, s'))
    (hout : t.outbound = s.outbound) (hafter : s.pendingAfter out.created c = s.pendingReliable)
    (hfragments : c.fragments = false) (hexpired : s.expiredBy c = []) : Pends s c out s' := by
  rcases toStep_eq_some h with ⟨p, hr, rfl⟩ | ⟨message, hr, rfl⟩
  · obtain ⟨-, rfl, -⟩ := createPacketWithFragments_ok hr
    exact Pends.same ((congrArg Outbound.pendingReliable hout).trans hafter.symm) hfragments
      (congrArg Outbound.nextFragmentId hout) hexpired
      (congrArg Outbound.reliablePacketsExpired hout) (congrArg Outbound.resendDelayMs hout)
  · cases createPacketWithFragments_error hr

theorem pends_receive {s s' : Session} {packet : Packet} {nowMs : Nat} {out : Output}
    (h : s.call (.receive packet nowMs) = some (out, s')) :
    Pends s (.receive packet nowMs) out s' := by
  have hs' : s' = (s.receive packet nowMs).2 := by
    rcases toStep_eq_some h with ⟨result, hr, -⟩ | ⟨message, hr, -⟩
    · rw [hr]
    · rw [hr]
  subst hs'
  by_cases hid : packet.connectionId = s.connectionId
  · have hout := @receive_outbound s packet nowMs hid
    exact Pends.same ((congrArg Outbound.pendingReliable hout).trans (if_pos hid).symm) rfl
      (congrArg Outbound.nextFragmentId hout) rfl (congrArg Outbound.reliablePacketsExpired hout)
      (congrArg Outbound.resendDelayMs hout)
  · obtain ⟨message, hforeign⟩ := receive_foreign nowMs hid
    rw [hforeign]
    exact Pends.same (if_neg hid).symm rfl rfl rfl rfl rfl

theorem checkTimeout_outbound (s : Session) (nowMs timeoutMs : Nat) :
    (s.checkTimeout nowMs timeoutMs).2.outbound = s.outbound := by
  unfold checkTimeout
  split
  · rfl
  · split
    · rfl
    · split <;> rfl

/-- **What any call does to the pending packets.** -/
theorem call_pends {s s' : Session} {c : Call} {out : Output} (h : s.call c = some (out, s')) :
    Pends s c out s' := by
  cases c with
  | createConnect nowMs payload => exact pends_createConnect h
  | acceptConnect packet nowMs payload => exact pends_acceptConnect h
  | resetPeerState => cases h; exact Pends.same rfl rfl rfl rfl rfl rfl
  | assumeConnected nowMs => cases h; exact Pends.same rfl rfl rfl rfl rfl rfl
  | send channelId payload options => exact pends_send h
  | sendMany channelId payload options maxFragmentBytes => exact pends_sendMany h
  | receive packet nowMs => exact pends_receive h
  | createAck => exact pends_control h rfl rfl rfl rfl
  | createPing payload => exact pends_control h rfl rfl rfl rfl
  | createDisconnect reason => exact pends_control h rfl rfl rfl rfl
  | checkTimeout nowMs timeoutMs =>
      cases h
      have hout := checkTimeout_outbound s nowMs timeoutMs
      exact Pends.same (congrArg Outbound.pendingReliable hout) rfl
        (congrArg Outbound.nextFragmentId hout) rfl (congrArg Outbound.reliablePacketsExpired hout)
        (congrArg Outbound.resendDelayMs hout)
  | dueResends nowMs =>
      cases h
      exact ⟨rfl, rfl, expired_purge s nowMs, rfl⟩

end Session

end CultNet.Rudp

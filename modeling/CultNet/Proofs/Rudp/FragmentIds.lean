/-
The fragment ids of a session.

`allocate_fragment_id` adds one to a 16-bit counter and would start again at 1
where the sum is 0.  But the addition saturates, so the sum is never 0: the
counter goes up to 65535 and stays there.  Along any run the ids handed out are
therefore 1, 2, 3 and so on up to 65535, and 65535 ever after, so two sends in a
row have different ids until the 65535th, and the same id from then on.

A receiver keeps the fragments of a message under the channel and the fragment id,
so from there on it can put the fragments of two messages into one buffer.
-/
import CultNet.Lib.Fallible
import CultNet.Proofs.Rudp.Pending
import Mathlib.Data.List.Range

namespace CultNet.Rudp

/-- The split sends of a log that were let, in order. -/
def CallLog.fragmentedSends (log : CallLog) : CallLog :=
  log.filter fun entry => entry.1.fragments && entry.2.failure.isNone

/-- The fragment id each of them gave its packets. -/
def CallLog.fragmentIds (log : CallLog) : List UInt16 :=
  log.fragmentedSends.filterMap fun entry => entry.2.created.head?.map Packet.fragmentId

/-- The fragment id that the split send number `n` is given, counted from 0. -/
def fragmentIdAt (n : Nat) : UInt16 := UInt16.ofNat (min (n + 1) 65535)

theorem toNat_fragmentIdAt (n : Nat) : (fragmentIdAt n).toNat = min (n + 1) 65535 := by
  rw [fragmentIdAt, UInt16.toNat_ofNat']
  exact Nat.mod_eq_of_lt (by omega)

theorem fragmentIdAt_eq_iff {m n : Nat} :
    fragmentIdAt m = fragmentIdAt n ↔ min (m + 1) 65535 = min (n + 1) 65535 := by
  rw [← UInt16.toNat_inj, toNat_fragmentIdAt, toNat_fragmentIdAt]

/-- The ids of `n` sends are all different from their neighbours while `n` is at most 65535. -/
theorem isChain_fragmentIdAt (n : Nat) :
    ((List.range n).map fragmentIdAt).IsChain (· ≠ ·) ↔ n ≤ 65535 := by
  simp only [List.isChain_map, List.isChain_range, ne_eq, fragmentIdAt_eq_iff, Nat.succ_eq_add_one]
  constructor
  · intro h
    by_contra hlong
    have := h 65534 (by omega)
    omega
  · intro h m hm
    omega

namespace Session

theorem followingFragmentId_of_eq {s : Session} {n : Nat} (h : s.nextFragmentId = fragmentIdAt n) :
    s.followingFragmentId = fragmentIdAt (n + 1) := by
  have hn := toNat_fragmentIdAt n
  unfold followingFragmentId allocateFragmentId
  simp only [h]
  by_cases hlast : 65535 ≤ n + 1
  · have hmax : fragmentIdAt n = 0xFFFF := by
      rw [← UInt16.toNat_inj, hn]
      simp; omega
    have hnext : fragmentIdAt (n + 1) = 0xFFFF := by
      rw [← hmax, fragmentIdAt_eq_iff]
      omega
    rw [hmax, hnext]
    rfl
  · have hmax : fragmentIdAt n ≠ 0xFFFF := by
      rw [ne_eq, ← UInt16.toNat_inj, hn]
      simp; omega
    have hsucc : fragmentIdAt n + 1 = fragmentIdAt (n + 1) := by
      rw [← UInt16.toNat_inj, UInt16.toNat_add, hn, toNat_fragmentIdAt, UInt16.toNat_one]
      omega
    have hpos : fragmentIdAt (n + 1) ≠ 0 := by
      rw [ne_eq, ← UInt16.toNat_inj, toNat_fragmentIdAt]
      simp
    rw [if_neg hmax, hsucc, if_neg hpos]

/-- A split send that is let creates a packet, and every packet it creates carries the id that
was next. -/
theorem fragmentId_created {s s' : Session} {c : Call} {out : Output}
    (h : s.call c = some (out, s')) (hfragments : c.fragments = true)
    (hlet : out.failure = none) :
    out.created ≠ [] ∧ ∀ p ∈ out.created, p.fragmentId = s.nextFragmentId := by
  cases c with
  | sendMany channelId payload options maxFragmentBytes =>
      cases maxFragmentBytes with
      | none => simp [Call.fragments] at hfragments
      | some limit =>
          simp only [Call.fragments, Bool.and_eq_true, decide_eq_true_eq] at hfragments
          obtain ⟨hpos, hlong⟩ := hfragments
          rcases toStep_eq_some h with ⟨packets, hr, rfl⟩ | ⟨message, -, rfl⟩
          · have hup := (sendMany_enters hr).1
            unfold sendMany at hr
            simp only [hup, Bool.not_true, Bool.false_eq_true, if_false,
              if_neg (Nat.pos_iff_ne_zero.mp hpos), if_pos hlong] at hr
            obtain ⟨-, hshape, -, -⟩ := sendFragmented_ok hr
            refine ⟨fragments_ne_nil hshape hpos hlong, fun p hp => ?_⟩
            obtain ⟨_, -, hfragment⟩ := Fallible.exists_mem_of_forall₂ hshape p hp
            exact hfragment.fragmentId
          · cases hlet
  | _ => simp [Call.fragments] at hfragments

/-! ### Along a run -/

/-- A log with one more entry. -/
theorem fragmentedSends_snoc (log : CallLog) (c : Call) (out : Output) :
    CallLog.fragmentedSends (log ++ [(c, out)]) = CallLog.fragmentedSends log ++
      if c.fragments && out.failure.isNone then [(c, out)] else [] := by
  rw [CallLog.fragmentedSends, List.filter_append]
  cases h : c.fragments && out.failure.isNone <;> simp [CallLog.fragmentedSends, h]

theorem fragmentIds_snoc (log : CallLog) (c : Call) (out : Output) :
    CallLog.fragmentIds (log ++ [(c, out)]) = CallLog.fragmentIds log ++
      if c.fragments && out.failure.isNone
        then (out.created.head?.map Packet.fragmentId).toList else [] := by
  rw [CallLog.fragmentIds, fragmentedSends_snoc, List.filterMap_append]
  congr 1
  split
  · cases h : out.created <;> simp [h]
  · rfl

/-- **The ids of a run, in closed form.**  Each split send gives one of them to all its
packets. -/
theorem fragmentIds_of_run {options : SessionOptions} {log : CallLog} {s : Session}
    (h : Machine.Run Session.call (Session.new options) log s) :
    s.nextFragmentId = fragmentIdAt log.fragmentedSends.length ∧
      log.fragmentIds = (List.range log.fragmentedSends.length).map fragmentIdAt ∧
      List.Forall₂ (fun entry id => ∀ p ∈ entry.2.created, p.fragmentId = id)
        log.fragmentedSends log.fragmentIds := by
  induction h with
  | nil => exact ⟨rfl, rfl, .nil⟩
  | @snoc before s s' c out _ hstep ih =>
      obtain ⟨hnext, hids, hgiven⟩ := ih
      have hid := (call_pends hstep).fragmentId
      rw [fragmentedSends_snoc, fragmentIds_snoc]
      by_cases hsplit : (c.fragments && out.failure.isNone) = true
      · rw [if_pos hsplit] at hid
        rw [if_pos hsplit, if_pos hsplit, List.length_append, List.length_singleton]
        simp only [Bool.and_eq_true, Option.isNone_iff_eq_none] at hsplit
        obtain ⟨hnonempty, hcreated⟩ := fragmentId_created hstep hsplit.1 hsplit.2
        obtain ⟨p, rest, hp⟩ := List.exists_cons_of_ne_nil hnonempty
        have hidp : p.fragmentId = s.nextFragmentId := hcreated p (by simp [hp])
        have hhead : (out.created.head?.map Packet.fragmentId).toList = [s.nextFragmentId] := by
          simp [hp, hidp]
        rw [hhead]
        refine ⟨hid.trans (followingFragmentId_of_eq hnext), ?_, ?_⟩
        · rw [hids, List.range_succ, List.map_append, hnext]
          rfl
        · exact List.rel_append hgiven (.cons hcreated .nil)
      · rw [if_neg hsplit] at hid
        rw [if_neg hsplit, if_neg hsplit, List.append_nil, List.append_nil]
        exact ⟨hid.trans hnext, hids, hgiven⟩

/-- **Neighbouring split sends have different fragment ids, none of them 0, exactly in the runs
with at most 65535 of them.** -/
theorem fragmentIds_differ_iff {options : SessionOptions} {log : CallLog} {s : Session}
    (h : Machine.Run Session.call (Session.new options) log s) :
    List.Forall₂ (fun entry id => ∀ p ∈ entry.2.created, p.fragmentId = id)
        log.fragmentedSends log.fragmentIds ∧
      (log.fragmentIds.IsChain (· ≠ ·) ∧ 0 ∉ log.fragmentIds ↔
        log.fragmentedSends.length ≤ 65535) := by
  obtain ⟨-, hids, hgiven⟩ := fragmentIds_of_run h
  refine ⟨hgiven, ?_⟩
  rw [hids, isChain_fragmentIdAt, and_iff_left_iff_imp]
  intro _ hzero
  obtain ⟨n, -, hn⟩ := List.mem_map.mp hzero
  have hnat := toNat_fragmentIdAt n
  rw [hn, UInt16.toNat_zero] at hnat
  omega

/-- A send of two bytes in two packets. -/
def mediaSend (first second : UInt8) : Call :=
  .sendMany "media" [first, second] {} (some 1)

/-- Two such sends have the ids 1 and 2. -/
theorem fragmentIds_differ_two :
    ∃ log s, Machine.Run Session.call (Session.new {}) log s ∧
      CallLog.fragmentIds log = [1, 2] ∧
      List.Forall₂ (fun entry id => ∀ p ∈ entry.2.created, p.fragmentId = id)
        (CallLog.fragmentedSends log) (CallLog.fragmentIds log) ∧
      ((CallLog.fragmentIds log).IsChain (· ≠ ·) ∧ 0 ∉ CallLog.fragmentIds log ↔
        (CallLog.fragmentedSends log).length ≤ 65535) := by
  have hexec : ((Machine.exec Session.call (Session.new {})
      [.assumeConnected 0, mediaSend 1 2, mediaSend 3 4]).any fun result =>
      CallLog.fragmentIds result.1 = [1, 2]) = true := by
    decide +kernel
  obtain ⟨log, s, hrun, -, hids⟩ := Machine.Run.of_exec_any hexec
  exact ⟨log, s, hrun, of_decide_eq_true hids, fragmentIds_differ_iff hrun⟩

/-! ### A long run -/

/-- The two packets of the send number `n`. -/
def mediaFragment (n : Nat) (index : UInt16) (byte : UInt8) : Packet where
  packetType := .data
  connectionId := 0
  sequence := UInt32.ofNat (2 * n + index.toNat + 1)
  ack := 0
  ackMask := 0
  channelId := "media"
  reliable := false
  ordered := false
  sequenced := false
  fragmentId := fragmentIdAt n
  fragmentIndex := index
  fragmentCount := 2
  payload := [byte]

/-- A connected session that received nothing and made `n` such sends. -/
structure HasSent (n : Nat) (s : Session) : Prop where
  connected : s.connected = true
  connectionId : s.connectionId = 0
  sequence : s.nextSequence = UInt32.ofNat (2 * n + 1)
  fragmentId : s.nextFragmentId = fragmentIdAt n
  window : s.window = (none, ∅)

/-- One of the two packets, where the counter has room. -/
theorem mediaFragment_created {s : Session} {n : Nat} {index : UInt16} (hid : s.connectionId = 0)
    (hwindow : s.window = (none, ∅))
    (hseq : s.nextSequence = UInt32.ofNat (2 * n + index.toNat + 1))
    (hroom : 2 * n + index.toNat + 2 < 2 ^ 32) (byte : UInt8) :
    s.createPacketWithFragments .data "media" [byte] false false false (fragmentIdAt n) index 2 =
      (.ok (mediaFragment n index byte),
        { s with nextSequence := UInt32.ofNat (2 * n + index.toNat + 2) }) := by
  have hmax : s.nextSequence ≠ u32Max := by
    rw [hseq, ne_eq, ← UInt32.toNat_inj, UInt32.toNat_ofNat', Nat.mod_eq_of_lt (by omega)]
    intro h
    have hlast : u32Max.toNat = 2 ^ 32 - 1 := rfl
    omega
  have hsucc : s.nextSequence + 1 = UInt32.ofNat (2 * n + index.toNat + 2) := by
    rw [hseq]
    exact (UInt32.ofNat_add (2 * n + index.toNat + 1) 1).symm
  have hack : s.ackState = (0, 0) := by
    rw [ackState_of_window (t := Session.new {}) hwindow]
    rfl
  unfold createPacketWithFragments
  rw [if_neg hmax, hack, hsucc, hid, hseq]
  rfl

/-- The loop of a send whose first fragment is created and not tracked. -/
theorem sendFragments_cons {s s₁ s₂ : Session} {channelId : String} {payload : List UInt8}
    {options : SendOptions} {limit : Nat} {fragmentId : UInt16} {count index : Nat}
    {rest : List Nat} {p : Packet} {packets : List Packet}
    (hfirst : s.createPacketWithFragments .data channelId
      (slice payload (index * limit) (min (index * limit + limit) payload.length))
      options.reliable options.ordered options.sequenced
      fragmentId (UInt16.ofNat index) (UInt16.ofNat count) = (.ok p, s₁))
    (hunreliable : p.reliable = false)
    (hrest : sendFragments channelId payload options limit fragmentId count rest s₁ =
      (.ok packets, s₂)) :
    sendFragments channelId payload options limit fragmentId count (index :: rest) s =
      (.ok (p :: packets), s₂) := by
  simp only [sendFragments, hfirst, hunreliable, Bool.false_eq_true, if_false, hrest]

/-- The two fragments of an unreliable send. -/
theorem sendFragments_pair {s : Session} {n : Nat} (hid : s.connectionId = 0)
    (hwindow : s.window = (none, ∅)) (hseq : s.nextSequence = UInt32.ofNat (2 * n + 1))
    (hroom : 2 * n + 3 < 2 ^ 32) (first second : UInt8) :
    sendFragments "media" [first, second] {} 1 (fragmentIdAt n) 2 [0, 1] s =
      (.ok [mediaFragment n 0 first, mediaFragment n 1 second],
        { s with nextSequence := UInt32.ofNat (2 * n + 3) }) := by
  have hfirst := @mediaFragment_created s n 0 hid hwindow hseq (by simp; omega) first
  have hsecond := @mediaFragment_created { s with nextSequence := UInt32.ofNat (2 * n + 2) } n 1
    hid hwindow rfl (by simp; omega) second
  exact sendFragments_cons hfirst rfl (sendFragments_cons hsecond rfl rfl)

theorem HasSent.next {s : Session} {n : Nat} (h : HasSent n s) (hroom : 2 * n + 3 < 2 ^ 32)
    (first second : UInt8) :
    ∃ s', s.call (mediaSend first second) =
        some ({ created := [mediaFragment n 0 first, mediaFragment n 1 second] }, s') ∧
      HasSent (n + 1) s' := by
  let purged := s.purgeExpiredReliable 0
  have hpair := sendFragments_pair (s := (purged.allocateFragmentId).2) h.connectionId h.window
    h.sequence hroom first second
  have hsplit : s.sendMany "media" [first, second] {} (some 1) =
      purged.sendFragmented "media" [first, second] {} 1 := by
    unfold sendMany
    rw [h.connected]
    rfl
  have hcount : divCeil [first, second].length 1 = 2 := by simp [divCeil]
  have hsend : purged.sendFragmented "media" [first, second] {} 1 =
      sendFragments "media" [first, second] {} 1 s.nextFragmentId 2 [0, 1]
        (purged.allocateFragmentId).2 := by
    unfold sendFragmented
    rw [hcount]
    rfl
  rw [h.fragmentId, hpair] at hsend
  refine ⟨_, congrArg (toStep fun packets => { created := packets }) (hsplit.trans hsend), ?_⟩
  exact {
    connected := h.connected
    connectionId := h.connectionId
    sequence := rfl
    fragmentId := followingFragmentId_of_eq h.fragmentId
    window := h.window }

/-- There is a run with any number of such sends that the counter has room for. -/
theorem exists_hasSent (n : Nat) (hroom : 2 * n + 1 < 2 ^ 32) :
    ∃ log s, Machine.Run Session.call (Session.new {}) log s ∧ HasSent n s := by
  induction n with
  | zero =>
      exact ⟨_, _, Machine.Run.nil.snoc (i := .assumeConnected 0) rfl, ⟨rfl, rfl, rfl, rfl, rfl⟩⟩
  | succ n ih =>
      obtain ⟨log, s, hrun, hsent⟩ := ih (by omega)
      obtain ⟨s', hstep, hsent'⟩ := hsent.next (by omega) 0 0
      exact ⟨_, s', hrun.snoc hstep, hsent'⟩

/-- **After 65534 sends the next two have the same fragment id**, and a receiver that is handed
the first packet of the one and the second packet of the other delivers the bytes 1 and 4 as one
message: neither of the messages 1 2 and 3 4. -/
theorem fragmentIds_repeat :
    ∃ log s,
      Machine.Run Session.call (Session.new {})
        (log ++
          [(mediaSend 1 2, { created := [mediaFragment 65534 0 1, mediaFragment 65534 1 2] })] ++
          [(mediaSend 3 4, { created := [mediaFragment 65535 0 3, mediaFragment 65535 1 4] })])
        s ∧
      ¬ (CallLog.fragmentIds (log ++
          [(mediaSend 1 2, { created := [mediaFragment 65534 0 1, mediaFragment 65534 1 2] })] ++
          [(mediaSend 3 4, { created := [mediaFragment 65535 0 3, mediaFragment 65535 1 4] })])
        ).IsChain (· ≠ ·) ∧
      (mediaFragment 65534 0 1).fragmentId = (mediaFragment 65535 1 4).fragmentId ∧
      ((Session.new {}).receive (mediaFragment 65534 0 1) 0).1 = .ok {} ∧
      ((((Session.new {}).receive (mediaFragment 65534 0 1) 0).2).receive
          (mediaFragment 65535 1 4) 0).1 =
        .ok { delivered := [⟨"media", [1, 4], 131069⟩] } := by
  obtain ⟨log, s, hrun, hsent⟩ := exists_hasSent 65534 (by omega)
  obtain ⟨s₁, hstep₁, hsent₁⟩ := hsent.next (by omega) 1 2
  obtain ⟨s₂, hstep₂, -⟩ := hsent₁.next (by omega) 3 4
  refine ⟨log, s₂, (hrun.snoc hstep₁).snoc hstep₂, ?_, ?_, ?_, ?_⟩
  · rw [fragmentIds_snoc, fragmentIds_snoc, List.append_assoc]
    intro h
    exact absurd h.right_of_append (by decide +kernel)
  · decide +kernel
  · decide +kernel
  · decide +kernel

end Session

end CultNet.Rudp

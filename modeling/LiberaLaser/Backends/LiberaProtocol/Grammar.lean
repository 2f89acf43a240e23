import LiberaLaser.Backends.LiberaProtocol.Session
import LiberaLaser.Foundations.Endian
import LiberaLaser.Foundations.Protocols
import LiberaLaser.Foundations.Runs

/-!
# What a receiver of the Libera protocol sees

The receiver's side of a session is a partial automaton (`Stage.next`): a greeting, its own answer,
then that the sender is ready and how it will stream, and then frames or points. A frame is a marker
and records with exactly the points that the marker counts, with nothing in between. A record is
within the size that was accepted unless it has one point only; a frame is if the content keeps to
what it is asked for, which the sender does not check. Where the receiver handles the scanner sync,
it has been told the settings that were last read before content is asked for, and the content is
not shifted by the sender; and otherwise it is. A message that could not be sent is the last of its
connection.

Whatever the worker and the application do and whatever the socket answers, every connection of a
controller follows this (`session_follows_protocol`).
-/

namespace LiberaLaser.LiberaProtocol

open Protocols Runs FloatArith

/-- How far a connection is. While a session streams, the receiver knows its own answer, the last
message about the scanner sync, the settings that the sender last read, and the next frame. -/
inductive Stage
  | down
  | opened
  | greeted
  | refused
  | accepted (accept : Accept)
  | ready (accept : Accept)
  | streaming (accept : Accept) (told wanted : Option ScannerSync) (frame : UInt64)
  | owing (accept : Accept) (told wanted : Option ScannerSync) (frame : UInt64) (left : ℕ)
  | broken
  deriving DecidableEq

/-- The receiver has said that it handles the scanner sync. -/
def Accept.HandlesScannerSync (accept : Accept) (codec : Codec) : Prop :=
  accept.featureFlags &&& codec.featureScannerSync ≠ 0

/-- A record of points is within the limits: it is of the size that was accepted, unless it has one
point only, and its samples have the channels that were accepted. -/
def Accept.Fits (accept : Accept) (codec : Codec) (samples : List PointSample) : Prop :=
  samples ≠ [] ∧
    (∀ sample ∈ samples, sample.user.length = accept.acceptedUserChannelCount.toNat) ∧
    (accept.maxRecordPayloadSize = 0 ∨ samples.length = 1 ∨
      samples.length * codec.pointSampleSize accept.acceptedUserChannelCount ≤
        accept.maxRecordPayloadSize.toNat)

/-- A marker is that of the next frame. It has points, and if the content keeps to the sizes that it
is asked for, they are within the limits. -/
def Accept.Marks (accept : Accept) (keeps : Bool) (frame : UInt64) (marker : FrameMarker) : Prop :=
  accept.acceptedStreamMode = .frameByCount ∧ marker.frameId = frame ∧
    0 < marker.framePointCount ∧
    (keeps = true → accept.maxFramePointCount = 0 ∨
      marker.framePointCount ≤ accept.maxFramePointCount)

/-- The content that is asked for is shifted on one side only. -/
def Accept.Shifted (accept : Accept) (codec : Codec) (told wanted : Option ScannerSync)
    (suppressed : Bool) : Prop :=
  (suppressed = true ↔ accept.HandlesScannerSync codec) ∧
    (accept.HandlesScannerSync codec → told = wanted ∧ wanted.isSome)

instance (accept : Accept) (codec : Codec) : Decidable (accept.HandlesScannerSync codec) :=
  inferInstanceAs (Decidable (_ ≠ _))

instance (accept : Accept) (codec : Codec) (samples : List PointSample) :
    Decidable (accept.Fits codec samples) := inferInstanceAs (Decidable (_ ∧ _))

instance (accept : Accept) (keeps : Bool) (frame : UInt64) (marker : FrameMarker) :
    Decidable (accept.Marks keeps frame marker) := inferInstanceAs (Decidable (_ ∧ _))

instance (accept : Accept) (codec : Codec) (told wanted : Option ScannerSync) (suppressed : Bool) :
    Decidable (accept.Shifted codec told wanted suppressed) := inferInstanceAs (Decidable (_ ∧ _))

namespace Stage

variable (codec : Codec) (keeps : Bool)

/-- What may be sent. -/
def afterMessage : Stage → Message → Option Stage
  | .opened, .hello _ => some .greeted
  | .accepted accept, .ready => some (.ready accept)
  | .ready accept, .streamConfig config =>
    if config.streamMode = accept.acceptedStreamMode ∧
        config.userChannelCount = accept.acceptedUserChannelCount then
      some (.streaming accept none none 1)
    else none
  | .streaming accept _ wanted frame, .scannerSync scannerSync =>
    if accept.HandlesScannerSync codec ∧ wanted = some scannerSync then
      some (.streaming accept (some scannerSync) wanted frame)
    else none
  | .streaming accept told wanted frame, .ping _ => some (.streaming accept told wanted frame)
  | .streaming accept told wanted frame, .frameMarker marker =>
    if accept.Marks keeps frame marker then
      some (.owing accept told wanted (frame + 1) marker.framePointCount.toNat)
    else none
  | .streaming accept told wanted frame, .points samples =>
    if accept.acceptedStreamMode ≠ .frameByCount ∧ accept.Fits codec samples then
      some (.streaming accept told wanted frame)
    else none
  | .owing accept told wanted frame left, .points samples =>
    if accept.Fits codec samples ∧ samples.length ≤ left then
      if samples.length = left then some (.streaming accept told wanted frame)
      else some (.owing accept told wanted frame (left - samples.length))
    else none
  | _, _ => none

/-- What may happen. -/
def next : Stage → SessionEvent → Option Stage
  | .down, .connected => some .opened
  | .down, _ => none
  | _, .closed => some .down
  | stage, .sent message => stage.afterMessage codec keeps message
  | stage, .sendFailed message => (stage.afterMessage codec keeps message).map fun _ => .broken
  | .greeted, .received record =>
    if record.type = .accept then
      some (match codec.decodeAccept record.payload with
        | none => .refused
        | some accept => .accepted accept)
    else some .refused
  | .streaming accept told wanted frame, .received _ => some (.streaming accept told wanted frame)
  | .streaming accept told _ frame, .readScannerSync scannerSync =>
    if accept.HandlesScannerSync codec then
      some (.streaming accept told (some scannerSync) frame)
    else none
  | .streaming accept told wanted frame, .requestedFrame _ suppressed =>
    if accept.acceptedStreamMode = .frameByCount ∧ accept.Shifted codec told wanted suppressed then
      some (.streaming accept told wanted frame)
    else none
  | .streaming accept told wanted frame, .requestedPoints _ suppressed =>
    if accept.acceptedStreamMode ≠ .frameByCount ∧ accept.Shifted codec told wanted suppressed then
      some (.streaming accept told wanted frame)
    else none
  | _, _ => none

end Stage

variable {codec : Codec} {keeps : Bool} {stage stage' : Stage} {message : Message} {accept : Accept}
  {told wanted : Option ScannerSync} {frame : UInt64} {c c' : LiberaProtocolController}
  {tr : List SessionEvent}

/-! ## The connection -/

/-- The events so far are allowed, and the receiver has a connection where the controller has a
socket that is not closed. -/
def Tracked (codec : Codec) (keeps : Bool) (c : LiberaProtocolController) (tr : List SessionEvent) :
    Prop :=
  c.scannerSyncPostProcessSuppressed = false ∧
    ∃ stage, Leads (Stage.next codec keeps) .down tr stage ∧
      (stage = .down ↔ c.socket = .none ∨ c.socket = .closed)

/-- Nothing can be sent. -/
def Off (codec : Codec) (keeps : Bool) (c : LiberaProtocolController) (tr : List SessionEvent) :
    Prop :=
  Tracked codec keeps c tr ∧ c.socket ≠ .open

/-- The socket is open, and the receiver is at a stage. -/
def At (codec : Codec) (keeps : Bool) (stage : Stage) (c : LiberaProtocolController)
    (tr : List SessionEvent) : Prop :=
  c.scannerSyncPostProcessSuppressed = false ∧ c.socket = .open ∧
    Leads (Stage.next codec keeps) .down tr stage

theorem next_closed (h : stage ≠ .down) : stage.next codec keeps .closed = some .down := by
  cases stage with
  | down => exact absurd rfl h
  | opened | greeted | refused | accepted | ready | streaming | owing | broken => rfl

theorem afterMessage_ne_down (codec : Codec) (keeps : Bool) (stage : Stage) (message : Message) :
    stage.afterMessage codec keeps message ≠ some .down := by
  cases stage <;> cases message <;> simp [Stage.afterMessage]
  intro _ _
  split <;> simp

theorem next_sent (h : stage.afterMessage codec keeps message = some stage') :
    stage.next codec keeps (.sent message) = some stage' ∧
      stage.next codec keeps (.sendFailed message) = some .broken ∧ stage ≠ .down ∧
        stage' ≠ .down := by
  have hfailed : (stage.afterMessage codec keeps message).map (fun _ => Stage.broken) =
      some .broken := by
    rw [h]
    rfl
  cases stage with
  | down | broken => cases h
  | opened | greeted | refused | accepted | ready | streaming | owing =>
    refine ⟨h, hfailed, by simp, ?_⟩
    rintro rfl
    exact afterMessage_ne_down codec keeps _ message h

theorem At.append (h : At codec keeps stage c tr) {e : SessionEvent}
    (he : stage.next codec keeps e = some stage') : At codec keeps stage' c (tr ++ [e]) :=
  ⟨h.1, h.2.1, leads_append.mpr ⟨stage, h.2.2, leads_cons.mpr ⟨stage', he, leads_nil.mpr rfl⟩⟩⟩

theorem At.tracked (h : At codec keeps stage c tr) (hstage : stage ≠ .down) :
    Tracked codec keeps c tr :=
  ⟨h.1, stage, h.2.2, iff_of_false hstage (by simp [h.2.1])⟩

/-- What is left of the connection is closed. -/
theorem Tracked.close (h : Tracked codec keeps c tr) {socket : Socket}
    (hsocket : socket = .none ∨ socket = .closed) :
    Off codec keeps (c.disconnected socket) (tr ++ c.socket.closeEvents) := by
  obtain ⟨-, stage, hleads, hstage⟩ := h
  refine ⟨⟨rfl, .down, ?_, iff_of_true rfl hsocket⟩, ?_⟩
  · cases hc : c.socket with
    | none | closed =>
      obtain rfl := hstage.mpr (by simp [hc])
      rwa [Socket.closeEvents, List.append_nil]
    | gone | «open» =>
      have hne : stage ≠ .down := fun hdown => by simpa [hc] using hstage.mp hdown
      exact hleads.append (leads_cons.mpr ⟨.down, next_closed hne, leads_nil.mpr rfl⟩)
  · rcases hsocket with rfl | rfl <;> simp [LiberaProtocolController.disconnected]

theorem triple_close : Act.Triple (Tracked codec keeps) close (Off codec keeps)
    (Off codec keeps) := by
  intro c tr h
  have hoff := h.close (.inl rfl)
  exact ⟨fun _ => hoff, fun _ => hoff⟩

theorem triple_markDisconnected {Q : LiberaProtocolController → List SessionEvent → Prop} :
    Act.Triple (Tracked codec keeps) markDisconnected Q (Off codec keeps) := by
  intro c tr h
  refine ⟨by simp [markDisconnected], fun _ => h.close ?_⟩
  split
  · exact .inl rfl
  · exact .inr rfl

theorem Tracked.gone (h : Tracked codec keeps c tr) (hopen : c.socket = .open) :
    Off codec keeps { c with socket := .gone } tr := by
  obtain ⟨hsuppressed, stage, hleads, hstage⟩ := h
  refine ⟨⟨hsuppressed, stage, hleads, ?_⟩, by simp⟩
  rw [hstage, hopen]
  simp

variable {P : LiberaProtocolController → Prop}

theorem triple_checkConnected (hstage : stage ≠ .down) (answer : Bool) :
    Act.Triple (fun c tr => At codec keeps stage c tr ∧ P c) (checkConnected answer)
      (fun c tr => At codec keeps stage c tr ∧ P c) (Off codec keeps) := by
  rintro c tr ⟨h, hP⟩
  rw [checkConnected, if_pos h.2.1]
  cases answer with
  | true => exact ⟨fun _ => by simpa using ⟨h, hP⟩, by simp⟩
  | false => exact ⟨by simp, fun _ => by simpa using (h.tracked hstage).gone h.2.1⟩

/-- **A message that may be sent** leads on, or the connection ends. -/
theorem triple_writeMessage (h : stage.afterMessage codec keeps message = some stage')
    (answer : WriteAnswer) :
    Act.Triple (fun c tr => At codec keeps stage c tr ∧ P c) (writeMessage message answer)
      (fun c tr => At codec keeps stage' c tr ∧ P c) (Off codec keeps) := by
  obtain ⟨hsent, hfailed, hdown, hdown'⟩ := next_sent h
  cases answer with
  | gone =>
    rintro c tr ⟨h, hP⟩
    have hgone := (triple_checkConnected hdown false c tr ⟨h, hP⟩).2
    rw [writeMessage, checkConnected, if_pos h.2.1] at *
    exact ⟨by simp, hgone⟩
  | failed =>
    refine (triple_checkConnected hdown true).andThen ?_
    refine (Act.triple_emit (Q := Tracked codec keeps) ?_).andThen triple_markDisconnected
    rintro c tr ⟨hat, -⟩
    exact (hat.append hfailed).tracked (by simp)
  | ok =>
    refine (triple_checkConnected hdown true).andThen (Act.triple_emit ?_)
    exact fun c tr ⟨hat, hP⟩ => ⟨hat.append hsent, hP⟩

/-! ## The scanner sync -/

/-- The session is the one that was accepted. -/
structure Accept.Negotiated (accept : Accept) (session : NegotiatedSession) : Prop where
  mode : session.streamMode = accept.acceptedStreamMode
  channels : session.userChannelCount = accept.acceptedUserChannelCount
  framePoints : accept.maxFramePointCount ≠ 0 →
    session.maxFramePointCount = accept.maxFramePointCount
  payload : accept.maxRecordPayloadSize ≠ 0 →
    session.maxRecordPayloadSize = accept.maxRecordPayloadSize
  flags : session.featureFlags = accept.featureFlags

theorem boundedOrDefault_of_ne {value fallback : UInt32} (h : value ≠ 0) :
    boundedOrDefault value fallback = value := if_neg h

theorem negotiated_session (accept : Accept) (info : LiberaProtocolControllerInfo) (hello : Hello)
    (now : TimePoint) : accept.Negotiated (accept.session info hello now) where
  mode := rfl
  channels := rfl
  framePoints h := boundedOrDefault_of_ne h
  payload h := boundedOrDefault_of_ne h
  flags := rfl

/-- The session streams, and what the sender remembers of the scanner sync was the last message
about it. The rest is asked of the next frame, of the number that the sender has for it, of the flag
of the network and of the mode. -/
def Live (codec : Codec) (keeps : Bool) (Q : UInt64 → UInt64 → Bool → StreamMode → Prop)
    (c : LiberaProtocolController) (tr : List SessionEvent) : Prop :=
  ∃ accept told wanted frame, At codec keeps (.streaming accept told wanted frame) c tr ∧
    accept.Negotiated c.session ∧ (c.scannerSyncSent = true → told = some c.lastScannerSync) ∧
    Q frame c.nextFrameId c.networkConnected c.session.streamMode

/-- Moreover the receiver, if it handles the scanner sync, was told the settings. -/
def Told (codec : Codec) (keeps : Bool) (Q : UInt64 → UInt64 → Bool → StreamMode → Prop)
    (c : LiberaProtocolController) (tr : List SessionEvent) : Prop :=
  ∃ accept told wanted frame, At codec keeps (.streaming accept told wanted frame) c tr ∧
    accept.Negotiated c.session ∧ (c.scannerSyncSent = true → told = some c.lastScannerSync) ∧
    Q frame c.nextFrameId c.networkConnected c.session.streamMode ∧
    (accept.HandlesScannerSync codec → told = wanted ∧ wanted.isSome)

variable {Q : UInt64 → UInt64 → Bool → StreamMode → Prop} {D : Type} [FloatArith D]
  {F : Type} [FloatArith F]

theorem Told.live (h : Told codec keeps Q c tr) : Live codec keeps Q c tr := by
  obtain ⟨accept, told, wanted, frame, hat, hsession, hsent, hQ, -⟩ := h
  exact ⟨accept, told, wanted, frame, hat, hsession, hsent, hQ⟩

theorem Live.tracked (h : Live codec keeps Q c tr) : Tracked codec keeps c tr := by
  obtain ⟨accept, told, wanted, frame, hat, -⟩ := h
  exact hat.tracked (by simp)

theorem receiverHandlesScannerSync_iff (h : accept.Negotiated c.session) :
    c.receiverHandlesScannerSync codec = true ↔ accept.HandlesScannerSync codec := by
  rw [LiberaProtocolController.receiverHandlesScannerSync, h.flags, decide_eq_true_eq,
    Accept.HandlesScannerSync]

/-- **The receiver is told** what it does not know. -/
theorem triple_syncScannerSyncIfNeeded (answers : SyncAnswers D) :
    Act.Triple (Live codec keeps Q) (syncScannerSyncIfNeeded codec answers) (Told codec keeps Q)
      (Off codec keeps) := by
  rintro c tr ⟨accept, told, wanted, frame, hat, hsession, hsent, hQ⟩
  rw [syncScannerSyncIfNeeded]
  by_cases hhandles : c.receiverHandlesScannerSync codec = true
  · have haccept := (receiverHandlesScannerSync_iff hsession).mp hhandles
    have hread : Act.Triple
        (fun c' tr => At codec keeps (.streaming accept told wanted frame) c' tr ∧ c' = c)
        (Act.emit fun _ => .readScannerSync answers.current)
        (fun c' tr => At codec keeps (.streaming accept told (some answers.current) frame) c' tr ∧
          c' = c)
        (Off codec keeps) :=
      Act.triple_emit fun c' tr ⟨hat, heq⟩ => ⟨hat.append (if_pos haccept), heq⟩
    have hsend : Act.Triple
        (fun c' tr => At codec keeps (.streaming accept told (some answers.current) frame) c' tr ∧
          c' = c)
        (sendScannerSync answers) (Told codec keeps Q) (Off codec keeps) := by
      rintro c' tr' ⟨hasked, rfl⟩
      rw [sendScannerSync]
      by_cases hknown : c'.scannerSyncSent = true ∧ answers.current = c'.lastScannerSync
      · rw [if_pos hknown, List.append_nil]
        have htold : told = some answers.current := by rw [hsent hknown.1, hknown.2]
        exact ⟨fun _ => ⟨accept, told, _, frame, hasked, hsession, hsent, hQ,
          fun _ => ⟨htold, rfl⟩⟩, by simp⟩
      · rw [if_neg hknown]
        have hmessage :
            (Stage.streaming accept told (some answers.current) frame).afterMessage codec keeps
              (.scannerSync answers.current) =
                some (.streaming accept (some answers.current) (some answers.current) frame) :=
          if_pos ⟨haccept, rfl⟩
        refine ((triple_writeMessage hmessage answers.write).andThen (Act.triple_modify ?_)) c' tr'
          ⟨hasked, rfl⟩
        rintro c tr ⟨htold, rfl⟩
        exact ⟨accept, _, _, frame, htold, hsession, fun _ => rfl, hQ, fun _ => ⟨rfl, rfl⟩⟩
    rw [if_pos hhandles]
    exact (hread.andThen hsend) c tr ⟨hat, rfl⟩
  · rw [if_neg hhandles, List.append_nil]
    have hother := mt (receiverHandlesScannerSync_iff hsession).mpr hhandles
    refine ⟨fun _ => ⟨accept, told, wanted, frame, ⟨rfl, hat.2⟩, hsession, nofun, hQ, ?_⟩, by simp⟩
    exact fun haccept => absurd haccept hother

/-! ## The handshake -/

section Records

variable {P Q R : LiberaProtocolController → List SessionEvent → Prop}
  {handle : Record → SessionAct} {failed : SessionAct}

/-- The rule for a record: what is done with it, and what is done where there is none. -/
theorem triple_readRecord (hP : ∀ c tr, P c tr → Tracked codec keeps c tr)
    (hhandle : ∀ record,
      Act.Triple P ((Act.emit fun _ => .received record).andThen (handle record)) Q R)
    (hfailed : Act.Triple (Tracked codec keeps) failed Q R) (answer : ReadAnswer) :
    Act.Triple P (readRecord codec handle failed answer) Q R := by
  intro c tr h
  have htracked := hP c tr h
  cases answer with
  | gone =>
    refine hfailed _ tr ?_
    rw [checkConnected]
    split
    · exact (htracked.gone ‹_›).1
    · exact htracked
  | bytes header payload =>
    rw [readRecord]
    dsimp only
    by_cases hopen : c.socket ≠ .open
    · rw [if_pos hopen]
      exact hfailed c tr htracked
    · rw [if_neg hopen]
      cases c.record codec header payload with
      | none => exact hfailed c tr htracked
      | some record => exact hhandle record c tr h

end Records

/-- The receiver accepts, or nothing more is sent. -/
theorem triple_receiveAccept (info : LiberaProtocolControllerInfo) (hello : Hello)
    (startedAt : TimePoint) (answer : ReadAnswer) :
    Act.Triple (At codec keeps .greeted) (receiveAccept codec info hello startedAt answer)
      (fun c tr => ∃ accept, At codec keeps (.accepted accept) c tr ∧ accept.Negotiated c.session ∧
        c.scannerSyncSent = false) (Tracked codec keeps) := by
  refine triple_readRecord (fun c tr h => h.tracked (by simp)) (fun record => ?_)
    (Act.triple_stop fun _ _ h => h) answer
  have hreceived (stage : Stage)
      (hstage : Stage.greeted.next codec keeps (.received record) = some stage) :
      Act.Triple (At codec keeps .greeted) (Act.emit fun _ => .received record)
        (At codec keeps stage)
        (Tracked codec keeps) :=
    Act.triple_emit fun c tr h => h.append hstage
  have hrefused (hstage : Stage.greeted.next codec keeps (.received record) = some .refused) :
      Act.Triple (At codec keeps .greeted)
        ((Act.emit fun _ => .received record).andThen (Act.stop id))
        (fun c tr => ∃ accept, At codec keeps (.accepted accept) c tr ∧
          accept.Negotiated c.session ∧
          c.scannerSyncSent = false) (Tracked codec keeps) :=
    (hreceived .refused hstage).andThen (Act.triple_stop fun c tr h => h.tracked (by simp))
  by_cases haccept : record.type = .accept
  · rw [if_pos haccept]
    cases hdecode : codec.decodeAccept record.payload with
    | none => exact hrefused (by simp [Stage.next, haccept, hdecode])
    | some accept =>
      refine (hreceived (.accepted accept) (by simp [Stage.next, haccept, hdecode])).andThen
        (Act.triple_modify fun c tr h => ⟨accept, ⟨h.1, h.2.1, h.2.2⟩, ?_, rfl⟩)
      exact negotiated_session accept info hello startedAt
  · rw [if_neg haccept]
    exact hrefused (if_neg haccept)

/-- **The handshake** ends in a session that streams, or in a connection that is given up. -/
theorem triple_performHandshake (info : LiberaProtocolControllerInfo)
    (answers : HandshakeAnswers D) :
    Act.Triple (At codec keeps .opened) (performHandshake codec info answers)
      (Live codec keeps fun frame _ _ _ => frame = 1) (Tracked codec keeps) := by
  have hoff {P Q : LiberaProtocolController → List SessionEvent → Prop} {p : SessionAct}
      (h : Act.Triple P p Q (Off codec keeps)) : Act.Triple P p Q (Tracked codec keeps) :=
    h.mono (fun _ _ h => h) (fun _ _ h => h) fun _ _ h => h.1
  intro c tr h
  have hhello : Stage.opened.afterMessage codec keeps (.hello (c.makeHello info)) = some .greeted :=
      rfl
  refine ((hoff ((triple_writeMessage hhello answers.hello).mono
    (fun c tr h => ⟨h, trivial⟩) (fun c tr h => h.1) fun _ _ h => h)).andThen
    ((triple_receiveAccept info _ answers.startedAt answers.reply).andThen
      (Act.triple_exists fun accept => ?_))) c tr h
  have hready : Act.Triple (fun c tr => At codec keeps (.accepted accept) c tr ∧
      accept.Negotiated c.session ∧ c.scannerSyncSent = false) (writeMessage .ready answers.ready)
      (fun c tr => At codec keeps (.ready accept) c tr ∧
        accept.Negotiated c.session ∧ c.scannerSyncSent = false) (Tracked codec keeps) :=
    hoff (triple_writeMessage rfl answers.ready)
  have hconfig : Act.Triple (fun c tr => At codec keeps (.ready accept) c tr ∧
      accept.Negotiated c.session ∧ c.scannerSyncSent = false) (sendStreamConfig answers.config)
      (Live codec keeps fun frame _ _ _ => frame = 1) (Tracked codec keeps) := by
    rintro c tr ⟨hat, hsession, hsent⟩
    have hmessage : (Stage.ready accept).afterMessage codec keeps (.streamConfig
        { defaultPointRate := c.pointRate
          streamMode := c.session.streamMode
          userChannelCount := c.session.userChannelCount }) =
        some (.streaming accept none none 1) := if_pos ⟨hsession.mode, hsession.channels⟩
    refine (hoff ((triple_writeMessage (P := fun c => accept.Negotiated c.session ∧
      c.scannerSyncSent = false) hmessage answers.config).mono
      (fun _ _ h => h) (fun c tr h => ?_) fun _ _ h => h)) c tr ⟨hat, hsession, hsent⟩
    exact ⟨accept, none, none, 1, h.1, h.2.1, fun hsent => by simp [h.2.2] at hsent, rfl⟩
  exact hready.andThen (hconfig.andThen
    (hoff ((triple_syncScannerSyncIfNeeded answers.sync).mono (fun _ _ h => h)
      (fun _ _ h => h.live) fun _ _ h => h)))

/-- The session streams, and the sender has the number of the next frame. -/
def Streaming (codec : Codec) (keeps : Bool) :
    LiberaProtocolController → List SessionEvent → Prop :=
  Live codec keeps fun frame nextFrameId networkConnected _ =>
    frame = nextFrameId ∧ networkConnected = true

/-- **A connection is made** and the session streams, or nothing is left of it. -/
theorem triple_connectToInfo (info : LiberaProtocolControllerInfo) (answers : ConnectAnswers D) :
    Act.Triple (Tracked codec keeps) (connectToInfo codec info answers) (Streaming codec keeps)
      (Off codec keeps) := by
  have hopen : Act.Triple (Tracked codec keeps) (openSocket answers.connects)
      (At codec keeps .opened)
      (Off codec keeps) := by
    intro c tr h
    have hclosed := h.close (.inr rfl)
    obtain ⟨⟨-, stage, hleads, hstage⟩, -⟩ := hclosed
    obtain rfl : stage = .down := hstage.mpr (.inr rfl)
    rw [openSocket]
    cases answers.connects with
    | true =>
      refine ⟨fun _ => ⟨h.1, rfl, ?_⟩, by simp⟩
      rw [if_pos rfl, ← List.append_assoc]
      exact hleads.append (leads_cons.mpr ⟨.opened, rfl, leads_nil.mpr rfl⟩)
    | false =>
      refine ⟨by simp, fun _ => ⟨⟨h.1, .down, hleads, ?_⟩, by simp⟩⟩
      exact iff_of_true rfl (.inr rfl)
  refine hopen.andThen (((triple_performHandshake info answers.handshake).andThen
    (Act.triple_modify ?_)).orElse triple_close)
  rintro c tr ⟨accept, told, wanted, frame, hat, hsession, hsent, rfl⟩
  exact ⟨accept, told, wanted, 1, hat, hsession, hsent, rfl, rfl⟩

theorem triple_reconnectToLatestInfo (answers : ConnectAnswers D) :
    Act.Triple (Off codec keeps) (reconnectToLatestInfo codec answers) (Streaming codec keeps)
      (Off codec keeps) := by
  intro c tr h
  rw [reconnectToLatestInfo]
  cases c.latestInfo with
  | none => exact ⟨by simp, fun _ => by simpa using h⟩
  | some info => exact triple_connectToInfo info answers c tr h.1

/-! ## The heartbeat -/

theorem triple_requireConnected (hQ : ∀ frame nextFrameId networkConnected streamMode,
      Q frame nextFrameId networkConnected streamMode → networkConnected = true)
    {R : LiberaProtocolController → List SessionEvent → Prop} :
    Act.Triple (Live codec keeps Q) requireConnected (Live codec keeps Q) R := by
  intro c tr h
  obtain ⟨accept, told, wanted, frame, -, -, -, hc⟩ := id h
  rw [requireConnected, List.append_nil, hQ _ _ _ _ hc]
  exact ⟨fun _ => h, nofun⟩

/-- An act that leaves the stage of a session that streams. -/
theorem triple_live {p : SessionAct} {R : LiberaProtocolController → List SessionEvent → Prop}
    (h : ∀ accept told wanted frame (P : LiberaProtocolController → Prop),
      Act.Triple (fun c tr => At codec keeps (.streaming accept told wanted frame) c tr ∧ P c) p
        (fun c tr => At codec keeps (.streaming accept told wanted frame) c tr ∧ P c) R) :
    Act.Triple (Live codec keeps Q) p (Live codec keeps Q) R := by
  rintro c tr ⟨accept, told, wanted, frame, hat, hrest⟩
  have hkept := h accept told wanted frame (fun c => accept.Negotiated c.session ∧
    (c.scannerSyncSent = true → told = some c.lastScannerSync) ∧
    Q frame c.nextFrameId c.networkConnected c.session.streamMode) c tr ⟨hat, hrest⟩
  exact ⟨fun hb => ⟨accept, told, wanted, frame, hkept.1 hb⟩, hkept.2⟩

theorem triple_receiveInbound (arrival : Arrival) :
    Act.Triple (Streaming codec keeps) (receiveInbound codec arrival) (Streaming codec keeps)
      (Off codec keeps) := by
  have hlost : Act.Triple (Tracked codec keeps) markDisconnected (Streaming codec keeps)
      (Off codec keeps) :=
    triple_markDisconnected
  cases arrival with
  | checkFailed => exact hlost.mono (fun _ _ h => h.tracked) (fun _ _ h => h) fun _ _ h => h
  | record read now =>
    refine triple_readRecord (fun _ _ h => h.tracked) (fun record => ?_) hlost read
    have hreceived : Act.Triple (Streaming codec keeps) (Act.emit fun _ => .received record)
        (Streaming codec keeps) (Off codec keeps) :=
      triple_live fun accept told wanted frame P =>
        Act.triple_emit fun c tr h => ⟨h.1.append rfl, h.2⟩
    refine hreceived.andThen (Act.triple_ite (fun _ => Act.triple_modify fun _ _ h => h) fun _ =>
      Act.triple_ite (fun _ => ?_) fun _ => Act.triple_modify fun _ _ h => h)
    exact hlost.mono (fun _ _ h => h.tracked) (fun _ _ h => h) fun _ _ h => h

theorem triple_drainInboundRecords (connected : Bool) (arrivals : List Arrival) :
    Act.Triple (Streaming codec keeps) (drainInboundRecords codec connected arrivals)
      (Streaming codec keeps)
      (Off codec keeps) := by
  refine (triple_live fun _ _ _ _ _ => triple_checkConnected (by simp) connected).andThen ?_
  have hconnected : Act.Triple (Streaming codec keeps) requireConnected (Streaming codec keeps)
      (Off codec keeps) :=
    triple_requireConnected fun _ _ _ _ h => h.2
  exact (Act.triple_forEach fun arrival _ =>
    hconnected.andThen (triple_receiveInbound arrival)).andThen hconnected

theorem triple_checkPong (now : TimePoint) :
    Act.Triple (Streaming codec keeps) (checkPong now) (Streaming codec keeps)
      (Off codec keeps) := by
  intro c tr h
  rw [checkPong]
  split
  · exact triple_markDisconnected c tr h.tracked
  · exact ⟨fun _ => by simpa using h, by simp⟩

theorem triple_sendPing (now : TimePoint) (answer : WriteAnswer) :
    Act.Triple (Streaming codec keeps) (sendPing now answer) (Streaming codec keeps)
      (Off codec keeps) := by
  have hping : Act.Triple (Streaming codec keeps) (writeMessage (.ping now) answer)
      (Streaming codec keeps)
      (Off codec keeps) := triple_live fun _ _ _ _ _ => triple_writeMessage rfl answer
  intro c tr h
  rw [sendPing]
  split
  · exact ⟨fun _ => by simpa using h, by simp⟩
  · refine (hping.andThen (Act.triple_modify ?_)) c tr h
    exact fun _ _ h => h

theorem triple_serviceHeartbeat (answers : HeartbeatAnswers) :
    Act.Triple (Streaming codec keeps) (serviceHeartbeat codec answers) (Streaming codec keeps)
      (Off codec keeps) :=
  (triple_requireConnected fun _ _ _ _ h => h.2).andThen
    ((triple_drainInboundRecords answers.connected answers.arrivals).andThen
      ((triple_checkPong answers.now).andThen (triple_sendPing answers.now answers.ping)))

/-! ## Frames and points -/

theorem length_chunk (points : List (LaserPoint F)) (count : ℕ) (userChannelCount : UInt8) :
    (encodePoints (points.take count) userChannelCount).length = min count points.length := by
  rw [encodePoints, List.length_map, List.length_take]

theorem fits_chunk (h : accept.Negotiated c.session) {points : List (LaserPoint F)}
    (hpoints : points ≠ []) :
    accept.Fits codec
      (encodePoints (points.take (c.pointsPerRecord codec)) c.session.userChannelCount) := by
  have hpos : 1 ≤ c.pointsPerRecord codec := le_max_left _ _
  refine ⟨?_, fun sample hsample => ?_, ?_⟩
  · rw [encodePoints, ne_eq, List.map_eq_nil_iff, List.take_eq_nil_iff]
    simp [hpoints, Nat.ne_of_gt hpos]
  · obtain ⟨point, -, rfl⟩ := List.mem_map.mp hsample
    simp [encodePoint, encodeUser, h.channels]
  · refine or_iff_not_imp_left.mpr fun hlimit => or_iff_not_imp_left.mpr fun hone => ?_
    rw [length_chunk] at hone ⊢
    have hcount : min (c.pointsPerRecord codec) points.length ≤
        accept.maxRecordPayloadSize.toNat /
          max (codec.pointSampleSize accept.acceptedUserChannelCount) 1 := by
      rw [LiberaProtocolController.pointsPerRecord, h.channels, h.payload hlimit] at hone ⊢
      generalize accept.maxRecordPayloadSize.toNat /
        max (codec.pointSampleSize accept.acceptedUserChannelCount) 1 = limit at *
      omega
    calc min (c.pointsPerRecord codec) points.length *
          codec.pointSampleSize accept.acceptedUserChannelCount
        ≤ min (c.pointsPerRecord codec) points.length *
          max (codec.pointSampleSize accept.acceptedUserChannelCount) 1 :=
          Nat.mul_le_mul_left _ (le_max_left _ _)
      _ ≤ accept.maxRecordPayloadSize.toNat := Nat.mul_le_of_le_div _ _ _ hcount

/-- The records of some points, at stages that count the points which are left. -/
theorem triple_sendChunks {S : ℕ → Stage} (hS : ∀ left samples, accept.Fits codec samples →
      samples.length ≤ left →
      (S left).afterMessage codec keeps (.points samples) = some (S (left - samples.length)))
    (hP : ∀ c, P c → accept.Negotiated c.session) (answers : ℕ → WriteAnswer) {passes : ℕ}
    {points : List (LaserPoint F)} (hpasses : points.length ≤ passes) :
    Act.Triple (fun c tr => At codec keeps (S points.length) c tr ∧ P c)
      (sendChunks codec answers passes points) (fun c tr => At codec keeps (S 0) c tr ∧ P c)
      (Off codec keeps) := by
  induction passes generalizing points with
  | zero =>
    obtain rfl := List.length_eq_zero_iff.mp (Nat.le_zero.mp hpasses)
    exact Act.triple_modify fun _ _ h => h
  | succ passes ih =>
    cases points with
    | nil => exact Act.triple_modify fun _ _ h => h
    | cons point points =>
      intro c tr h
      have hpos : 1 ≤ c.pointsPerRecord codec := le_max_left _ _
      have hfits : accept.Fits codec (encodePoints ((point :: points).take
          (c.pointsPerRecord codec)) c.session.userChannelCount) :=
        fits_chunk (hP c h.2) (List.cons_ne_nil point points)
      have hleft : ((point :: points).drop (c.pointsPerRecord codec)).length =
          (point :: points).length - (encodePoints ((point :: points).take
            (c.pointsPerRecord codec)) c.session.userChannelCount).length := by
        rw [length_chunk, List.length_drop]
        omega
      have hwrite := hS (point :: points).length _ hfits (by rw [length_chunk]; omega)
      rw [← hleft] at hwrite
      refine ((triple_writeMessage hwrite _).andThen (ih ?_)) c tr h
      rw [List.length_drop]
      simp only [List.length_cons] at hpasses ⊢
      omega

/-- Where nothing is shifted twice or left unshifted, content is asked for. -/
theorem triple_requestContent {event : LiberaProtocolController → Bool → SessionEvent}
    (hevent : ∀ accept told wanted frame suppressed,
      accept.acceptedStreamMode = c.session.streamMode →
      accept.Shifted codec told wanted suppressed →
      (Stage.streaming accept told wanted frame).next codec keeps (event c suppressed) =
        some (.streaming accept told wanted frame))
    {R : LiberaProtocolController → List SessionEvent → Prop} :
    Act.Triple (fun c' tr => Told codec keeps Q c' tr ∧ c' = c) (requestContent codec event)
      (fun c' tr => Told codec keeps Q c' tr ∧ c' = c) R := by
  rintro c tr ⟨⟨accept, told, wanted, frame, hat, hsession, hsent, hQ, htold⟩, rfl⟩
  have hsame : { c with scannerSyncPostProcessSuppressed := false } = c := by
    obtain ⟨hsuppressed, -⟩ := hat
    rw [← hsuppressed]
  rw [requestContent]
  split
  · rename_i hhandles
    have haccept := (receiverHandlesScannerSync_iff hsession).mp hhandles
    refine ⟨fun _ => ?_, by simp⟩
    dsimp only
    rw [hsame]
    exact ⟨⟨accept, told, wanted, frame, hat.append (hevent accept told wanted frame true
      hsession.mode.symm ⟨iff_of_true rfl haccept, htold⟩), hsession, hsent, hQ, htold⟩, rfl⟩
  · rename_i hhandles
    have haccept := mt (receiverHandlesScannerSync_iff hsession).mpr hhandles
    refine ⟨fun _ => ?_, by simp⟩
    rw [hat.1]
    exact ⟨⟨accept, told, wanted, frame, hat.append (hevent accept told wanted frame false
      hsession.mode.symm ⟨iff_of_false (by simp) haccept, htold⟩), hsession, hsent, hQ, htold⟩, rfl⟩

/-- The stage while some points of a frame are owed. -/
def Stage.owes (accept : Accept) (told wanted : Option ScannerSync) (frame : UInt64) (left : ℕ) :
    Stage :=
  if left = 0 then .streaming accept told wanted frame else .owing accept told wanted frame left

theorem afterMessage_owes {left : ℕ} {samples : List PointSample}
    (hfits : accept.Fits codec samples) (hle : samples.length ≤ left) :
    (Stage.owes accept told wanted frame left).afterMessage codec keeps (.points samples) =
      some (Stage.owes accept told wanted frame (left - samples.length)) := by
  have hpos := List.length_pos_iff.mpr hfits.1
  have hmessage : (Stage.owing accept told wanted frame left).afterMessage codec keeps
      (.points samples) =
      if samples.length = left then some (.streaming accept told wanted frame)
      else some (.owing accept told wanted frame (left - samples.length)) := if_pos ⟨hfits, hle⟩
  rw [Stage.owes, if_neg (by omega), hmessage, Stage.owes]
  by_cases hall : samples.length = left
  · rw [if_pos hall, if_pos (by omega)]
  · rw [if_neg hall, if_neg (by omega)]

/-- Frames have fewer points than a marker can count, and if the content keeps to the sizes that it
is asked for, no more than those. -/
def ContentAnswers.Counted (keeps : Bool) (answers : ContentAnswers D F) : Prop :=
  ∀ request frame, answers.frame request = some frame →
    frame.points.length < 2 ^ 32 ∧
      (keeps = true → frame.points.length ≤ request.maximumPointsRequired)

/-- The marker of a frame. -/
theorem marks_frameMarker {E : Type} {sent : Frame E} (hpoints : sent.points ≠ [])
    (hlength : sent.points.length < 2 ^ 32)
    (hkeeps : keeps = true → sent.points.length ≤ max 1 c.session.maxFramePointCount.toNat)
    (hmode : c.session.streamMode = .frameByCount) (hsession : accept.Negotiated c.session) :
    accept.Marks keeps c.nextFrameId (c.frameMarker sent) ∧
      (c.frameMarker sent).framePointCount.toNat = sent.points.length := by
  have hpos := List.length_pos_iff.mpr hpoints
  have hcount : (c.frameMarker sent).framePointCount.toNat = sent.points.length := by
    rw [LiberaProtocolController.frameMarker, min_eq_left (by omega), UInt32.toNat_ofNat']
    exact Nat.mod_eq_of_lt hlength
  refine ⟨⟨hsession.mode ▸ hmode, rfl, ?_, fun hkept => or_iff_not_imp_left.mpr fun hbounded => ?_⟩,
    hcount⟩
  · rw [UInt32.lt_iff_toNat_lt, hcount]
    exact hpos
  · have hle := hkeeps hkept
    rw [hsession.framePoints hbounded] at hle
    have hne : accept.maxFramePointCount.toNat ≠ 0 := fun hzero =>
      hbounded (UInt32.toNat_inj.mp hzero)
    rw [UInt32.le_iff_toNat_le, hcount]
    omega

/-- The session streams frames, or it streams points. -/
def StreamingIn (codec : Codec) (keeps : Bool) (frames : Bool) :
    LiberaProtocolController → List SessionEvent → Prop :=
  Live codec keeps fun frame nextFrameId networkConnected streamMode =>
    frame = nextFrameId ∧ networkConnected = true ∧ (streamMode = .frameByCount ↔ frames = true)

/-- Moreover the receiver, if it handles the scanner sync, was told the settings. -/
def ToldIn (codec : Codec) (keeps : Bool) (frames : Bool) :
    LiberaProtocolController → List SessionEvent → Prop :=
  Told codec keeps fun frame nextFrameId networkConnected streamMode =>
    frame = nextFrameId ∧ networkConnected = true ∧ (streamMode = .frameByCount ↔ frames = true)

/-- What the sender has while it sends its content. -/
structure Sending (accept : Accept) (told : Option ScannerSync) (nextFrameId : UInt64)
    (c : LiberaProtocolController) : Prop where
  session : accept.Negotiated c.session
  sent : c.scannerSyncSent = true → told = some c.lastScannerSync
  frame : c.nextFrameId = nextFrameId
  connected : c.networkConnected = true

/-- **A frame goes out** whole, or the connection ends. -/
theorem triple_sendFrame {sent : Frame F} (hpoints : sent.points ≠ [])
    (hlength : sent.points.length < 2 ^ 32)
    (hkeeps : keeps = true → sent.points.length ≤ max 1 c.session.maxFramePointCount.toNat)
    (marker : WriteAnswer) (points : ℕ → WriteAnswer) (sentAt : TimePoint) :
    Act.Triple (fun c' tr => ToldIn codec keeps true c' tr ∧ c' = c)
      (sendFrame codec D sent marker points sentAt) (Streaming codec keeps) (Off codec keeps) := by
  rintro c tr ⟨⟨accept, told, wanted, frame, hat, hsession, hsent, ⟨rfl, hconnected, hmode⟩, -⟩,
    rfl⟩
  obtain ⟨hmarks, hcount⟩ := marks_frameMarker hpoints hlength hkeeps (hmode.mpr rfl) hsession
  have hmarker : (Stage.streaming accept told wanted c.nextFrameId).afterMessage codec keeps
      (.frameMarker (c.frameMarker sent)) =
        some (Stage.owes accept told wanted (c.nextFrameId + 1) sent.points.length) := by
    rw [Stage.owes, if_neg (by simpa using hpoints), ← hcount]
    exact if_pos hmarks
  have hcounted : Act.Triple
      (fun c' tr => At codec keeps (.streaming accept told wanted c.nextFrameId) c' tr ∧ c' = c)
      (Act.modify fun c => { c with nextFrameId := c.nextFrameId + 1 })
      (fun c' tr => At codec keeps (.streaming accept told wanted c.nextFrameId) c' tr ∧
        Sending accept told (c.nextFrameId + 1) c')
      (Off codec keeps) := by
    refine Act.triple_modify ?_
    rintro c' tr ⟨hat, rfl⟩
    exact ⟨hat, hsession, hsent, rfl, hconnected⟩
  have hsends : Act.Triple
      (fun c' tr => At codec keeps
        (Stage.owes accept told wanted (c.nextFrameId + 1) sent.points.length)
        c' tr ∧ Sending accept told (c.nextFrameId + 1) c')
      (sendPointsChunked codec sent.points points)
      (fun c' tr => At codec keeps (.streaming accept told wanted (c.nextFrameId + 1)) c' tr ∧
        Sending accept told (c.nextFrameId + 1) c')
      (Off codec keeps) :=
    triple_sendChunks (fun left samples hfits hle => afterMessage_owes hfits hle)
      (fun c' h => h.session) points le_rfl
  refine (hcounted.andThen ((triple_writeMessage hmarker marker).andThen
    (hsends.andThen (Act.triple_modify ?_)))) c tr ⟨hat, rfl⟩
  exact fun c' tr ⟨hat, h⟩ =>
    ⟨accept, told, wanted, _, hat, h.session, h.sent, h.frame.symm, h.connected⟩

/-- What a pass may end in. -/
def Idle (codec : Codec) (keeps : Bool) (c : LiberaProtocolController) (tr : List SessionEvent) :
    Prop :=
  Off codec keeps c tr ∨ Streaming codec keeps c tr

theorem StreamingIn.streaming {frames : Bool} (h : StreamingIn codec keeps frames c tr) :
    Streaming codec keeps c tr := by
  obtain ⟨accept, told, wanted, frame, hat, hsession, hsent, hframe, hconnected, -⟩ := h
  exact ⟨accept, told, wanted, frame, hat, hsession, hsent, hframe, hconnected⟩

theorem triple_requestFrame {answers : ContentAnswers D F} (hcounted : answers.Counted keeps) :
    Act.Triple (ToldIn codec keeps true) (requestFrame codec answers) (Streaming codec keeps)
      (Idle codec keeps) := by
  intro c tr h
  have hmode : c.session.streamMode = .frameByCount := by
    obtain ⟨accept, told, wanted, frame, -, -, -, ⟨-, -, hmode⟩, -⟩ := id h
    exact hmode.mpr rfl
  have hrequest : Act.Triple (fun c' tr => ToldIn codec keeps true c' tr ∧ c' = c)
      (requestContent codec fun c suppressed =>
        .requestedFrame (c.frameFillRequest answers.now) suppressed)
      (fun c' tr => ToldIn codec keeps true c' tr ∧ c' = c) (Idle codec keeps) := by
    refine triple_requestContent fun accept told wanted frame suppressed haccept hshifted => ?_
    exact if_pos ⟨haccept.trans hmode, hshifted⟩
  refine (hrequest.andThen ?_) c tr ⟨h, rfl⟩
  have hnothing : Act.Triple (fun c' tr => ToldIn codec keeps true c' tr ∧ c' = c) (Act.stop id)
      (Streaming codec keeps) (Idle codec keeps) :=
    Act.triple_stop fun c' tr h => .inr (StreamingIn.streaming (Told.live h.1))
  cases hframe : answers.frame (c.frameFillRequest answers.now) with
  | none => exact hnothing
  | some sent =>
    obtain ⟨hlength, hkeeps⟩ := hcounted _ _ hframe
    refine Act.triple_ite (fun _ => hnothing) fun hpoints => ?_
    exact (triple_sendFrame hpoints hlength hkeeps answers.marker answers.points
      answers.sentAt).mono (fun _ _ h => h) (fun _ _ h => h) fun _ _ h => .inl h

theorem triple_sendFrameRecord {answers : ContentAnswers D F} (hcounted : answers.Counted keeps) :
    Act.Triple (StreamingIn codec keeps true) (sendFrameRecord codec answers)
      (Streaming codec keeps)
      (Idle codec keeps) := by
  have hsync : Act.Triple (StreamingIn codec keeps true)
      (syncScannerSyncIfNeeded codec answers.sync)
      (ToldIn codec keeps true) (Idle codec keeps) :=
    (triple_syncScannerSyncIfNeeded answers.sync).mono (fun _ _ h => h) (fun _ _ h => h)
      fun _ _ h => .inl h
  exact (triple_requireConnected fun _ _ _ _ h => h.2.1).andThen
    (hsync.andThen (triple_requestFrame hcounted))

/-- **A batch goes out**, or the connection ends. -/
theorem triple_sendBatch (hmode : c.session.streamMode ≠ .frameByCount)
    (batch : List (LaserPoint F)) (points : ℕ → WriteAnswer) (sentAt : TimePoint) :
    Act.Triple (fun c' tr => ToldIn codec keeps false c' tr ∧ c' = c)
      ((sendPointsChunked codec batch points).andThen
        (Act.modify (·.noteSent D batch.length sentAt)))
      (Streaming codec keeps) (Idle codec keeps) := by
  rintro c tr ⟨⟨accept, told, wanted, frame, hat, hsession, hsent, ⟨rfl, hconnected, -⟩, -⟩, rfl⟩
  have hsends : Act.Triple
      (fun c' tr => At codec keeps (.streaming accept told wanted c.nextFrameId) c' tr ∧
        Sending accept told c.nextFrameId c')
      (sendPointsChunked codec batch points)
      (fun c' tr => At codec keeps (.streaming accept told wanted c.nextFrameId) c' tr ∧
        Sending accept told c.nextFrameId c')
      (Off codec keeps) :=
    triple_sendChunks (S := fun _ => .streaming accept told wanted c.nextFrameId)
      (fun left samples hfits hle => if_pos ⟨hsession.mode ▸ hmode, hfits⟩)
      (fun c' h => h.session) points le_rfl
  refine ((hsends.mono (fun _ _ h => h) (fun _ _ h => h) fun _ _ h => .inl h).andThen
    (Act.triple_modify ?_)) c tr ⟨hat, hsession, hsent, rfl, hconnected⟩
  exact fun c' tr ⟨hat, h⟩ =>
    ⟨accept, told, wanted, _, hat, h.session, h.sent, h.frame.symm, h.connected⟩

theorem triple_requestPoints (answers : ContentAnswers D F) :
    Act.Triple (ToldIn codec keeps false) (requestPoints codec answers) (Streaming codec keeps)
      (Idle codec keeps) := by
  intro c tr h
  have hmode : c.session.streamMode ≠ .frameByCount := by
    obtain ⟨accept, told, wanted, frame, -, -, -, ⟨-, -, hmode⟩, -⟩ := id h
    exact fun hframes => by simpa using hmode.mp hframes
  have hrequest : Act.Triple (fun c' tr => ToldIn codec keeps false c' tr ∧ c' = c)
      (requestContent codec fun c suppressed =>
        .requestedPoints (c.pointFillRequest answers.now) suppressed)
      (fun c' tr => ToldIn codec keeps false c' tr ∧ c' = c) (Idle codec keeps) := by
    refine triple_requestContent fun accept told wanted frame suppressed haccept hshifted => ?_
    exact if_pos ⟨haccept ▸ hmode, hshifted⟩
  have hnothing : Act.Triple (fun c' tr => ToldIn codec keeps false c' tr ∧ c' = c) (Act.stop id)
      (Streaming codec keeps) (Idle codec keeps) :=
    Act.triple_stop fun c' tr h => .inr (StreamingIn.streaming (Told.live h.1))
  refine (hrequest.andThen ?_) c tr ⟨h, rfl⟩
  cases answers.batch with
  | none => exact hnothing
  | some batch =>
    cases batch with
    | nil => exact hnothing
    | cons point points => exact triple_sendBatch hmode _ answers.points answers.sentAt

theorem triple_sendRawPointsRecord (answers : ContentAnswers D F) :
    Act.Triple (StreamingIn codec keeps false) (sendRawPointsRecord codec answers)
      (Streaming codec keeps)
      (Idle codec keeps) := by
  have hsync : Act.Triple (StreamingIn codec keeps false)
      (syncScannerSyncIfNeeded codec answers.sync)
      (ToldIn codec keeps false) (Idle codec keeps) :=
    (triple_syncScannerSyncIfNeeded answers.sync).mono (fun _ _ h => h) (fun _ _ h => h)
      fun _ _ h => .inl h
  exact hsync.andThen (triple_requestPoints answers)

theorem Streaming.streamingIn (h : Streaming codec keeps c tr) {frames : Bool}
    (hmode : c.session.streamMode = .frameByCount ↔ frames = true) :
    StreamingIn codec keeps frames c tr := by
  obtain ⟨accept, told, wanted, frame, hat, hsession, hsent, hframe, hconnected⟩ := h
  exact ⟨accept, told, wanted, frame, hat, hsession, hsent, hframe, hconnected, hmode⟩

theorem triple_sendContent {answers : ContentAnswers D F} (hcounted : answers.Counted keeps) :
    Act.Triple (Streaming codec keeps) (sendContent codec answers) (Streaming codec keeps)
      (Idle codec keeps) := by
  intro c tr h
  rw [sendContent]
  split
  · exact triple_sendFrameRecord hcounted c tr (h.streamingIn (iff_of_true ‹_› rfl))
  · exact triple_sendRawPointsRecord answers c tr (h.streamingIn (iff_of_false ‹_› (by simp)))

/-! ## Whole runs -/

theorem triple_ensureConnected (connected : Bool) (answers : ConnectAnswers D) :
    Act.Triple (Idle codec keeps) (ensureConnected codec connected answers) (Streaming codec keeps)
      (Off codec keeps) := by
  rintro c tr (h | h)
  · have hreconnect := triple_reconnectToLatestInfo answers c tr h
    rw [ensureConnected, checkConnected, if_neg h.2]
    simpa using hreconnect
  · obtain ⟨accept, told, wanted, frame, hat, -, -, -, hconnected⟩ := id h
    rw [ensureConnected, if_pos hconnected, checkConnected, if_pos hat.2.1]
    cases connected with
    | true => exact ⟨fun _ => by simpa using h, by simp⟩
    | false =>
      have hgone := h.tracked.gone hat.2.1
      simpa using triple_reconnectToLatestInfo answers _ tr hgone

theorem triple_awaitSend (now : TimePoint) :
    Act.Triple (Streaming codec keeps) (awaitSend now) (Streaming codec keeps)
      (Idle codec keeps) := by
  intro c tr h
  rw [awaitSend, List.append_nil]
  exact ⟨fun _ => h, fun _ => .inr h⟩

/-- **A pass of the worker.** -/
theorem triple_pass {answers : PassAnswers D F} (hcounted : answers.content.Counted keeps) :
    Act.Triple (Idle codec keeps) (pass codec answers) (Idle codec keeps) (Idle codec keeps) := by
  have hoff {P Q : LiberaProtocolController → List SessionEvent → Prop} {p : SessionAct}
      (h : Act.Triple P p Q (Off codec keeps)) : Act.Triple P p Q (Idle codec keeps) :=
    h.mono (fun _ _ h => h) (fun _ _ h => h) fun _ _ h => .inl h
  have hsends : Act.Triple (Streaming codec keeps) (sendContent codec answers.content)
      (Idle codec keeps)
      (Idle codec keeps) :=
    (triple_sendContent hcounted).mono (fun _ _ h => h) (fun _ _ h => .inr h) fun _ _ h => h
  exact (hoff (triple_ensureConnected answers.connected answers.reconnect)).andThen
    ((hoff (triple_serviceHeartbeat answers.heartbeat)).andThen
      ((triple_awaitSend answers.now).andThen hsends))

theorem Idle.tracked (h : Idle codec keeps c tr) : Tracked codec keeps c tr :=
  h.elim (fun h => h.1) Live.tracked

/-- A change of what the connection does not depend on. -/
theorem Idle.congr (h : Idle codec keeps c tr) (hsocket : c'.socket = c.socket)
    (hsuppressed : c'.scannerSyncPostProcessSuppressed = c.scannerSyncPostProcessSuppressed)
    (hsession : c'.session = c.session) (hsent : c'.scannerSyncSent = c.scannerSyncSent)
    (hlast : c'.lastScannerSync = c.lastScannerSync) (hframe : c'.nextFrameId = c.nextFrameId)
    (hconnected : c'.networkConnected = c.networkConnected) : Idle codec keeps c' tr := by
  rcases h with ⟨⟨hfalse, stage, hleads, hstage⟩, hoff⟩ |
    ⟨accept, told, wanted, frame, hat, hrest⟩
  · refine .inl ⟨⟨hsuppressed.trans hfalse, stage, hleads, ?_⟩, ?_⟩
    · rwa [hsocket]
    · rwa [hsocket]
  · refine .inr ⟨accept, told, wanted, frame, ?_, ?_⟩
    · exact ⟨hsuppressed.trans hat.1, hsocket.trans hat.2.1, hat.2.2⟩
    · rwa [hsession, hsent, hlast, hframe, hconnected]

/-- The frames that come back in a step. -/
def SessionTurn.Counted (keeps : Bool) : SessionTurn D F → Prop
  | .pass answers => answers.content.Counted keeps
  | _ => True

/-- **What one step keeps.** -/
theorem idle_step {turn : SessionTurn D F} {o : List SessionEvent} (h : Idle codec keeps c tr)
    (hcounted : turn.Counted keeps) (hstep : step codec c turn = some (c', o)) :
      Idle codec keeps c' (tr ++ o) := by
  rw [step] at hstep
  split at hstep
  swap
  · cases hstep
  simp only [Option.some.injEq, Prod.mk.injEq] at hstep
  obtain ⟨rfl, rfl⟩ := hstep
  have hchanged {f : LiberaProtocolController → LiberaProtocolController}
      (hf : ∀ {c tr}, Idle codec keeps c tr → Idle codec keeps (f c) tr) :
      Act.Triple (Idle codec keeps) (Act.modify f) (Idle codec keeps) (Idle codec keeps) :=
    Act.triple_modify fun _ _ h => hf h
  suffices htriple : Act.Triple (Idle codec keeps) (turn.act codec) (Idle codec keeps)
      (Idle codec keeps) from
    htriple.final h
  cases turn with
  | connect info answers =>
    have hconnects : Act.Triple (Idle codec keeps) (connectToInfo codec info answers)
        (Idle codec keeps)
        (Idle codec keeps) :=
      (triple_connectToInfo info answers).mono (fun _ _ h => h.tracked) (fun _ _ h => .inr h)
        fun _ _ h => .inl h
    have hinfo : Act.Triple (Idle codec keeps) (updateDiscoveredInfo info) (Idle codec keeps)
        (Idle codec keeps) :=
      hchanged fun h => h.congr rfl rfl rfl rfl rfl rfl rfl
    exact hinfo.andThen hconnects
  | pass answers => exact triple_pass hcounted
  | close =>
    exact triple_close.mono (fun _ _ h => h.tracked) (fun _ _ h => .inl h) fun _ _ h => .inl h
  | startThread | stopThread | updateDiscoveredInfo | setPointRate =>
    exact hchanged fun h => h.congr rfl rfl rfl rfl rfl rfl rfl

/-- **Every connection follows the protocol**, whatever the worker and the application do, with
frames that a marker can count; and if the frames keep to the sizes that are asked for, the markers
are within the limits. While the socket is open between their steps the session streams, nothing of
a frame is owed, and both sides have the same number for the next frame. -/
theorem session_follows_protocol (keeps : Bool) {info : Option LiberaProtocolControllerInfo}
    {turns : List (SessionTurn D F)} {o : List SessionEvent}
    (hcounted : ∀ turn ∈ turns, turn.Counted keeps)
    (h : run (step codec) { latestInfo := info } turns = some (c, o)) :
    ∃ stage, Leads (Stage.next codec keeps) .down o stage ∧
      (stage = .down ↔ c.socket = .none ∨ c.socket = .closed) ∧
      (c.socket = .open →
        ∃ accept told wanted, stage = .streaming accept told wanted c.nextFrameId) := by
  have hinit : Idle codec keeps { latestInfo := info } [] :=
    .inl ⟨⟨rfl, .down, leads_nil.mpr rfl, iff_of_true rfl (.inl rfl)⟩, by simp⟩
  have hturns : Along (step (D := D) (F := F) codec) (fun _ _ turn => turn.Counted keeps) []
      { latestInfo := info } turns := Along.of_forall hcounted _ _
  have hstep (tr : List SessionEvent) (c : LiberaProtocolController) (turn : SessionTurn D F)
      (c' : LiberaProtocolController) (o : List SessionEvent) (hidle : Idle codec keeps c tr)
      (hturn : turn.Counted keeps) (h : step codec c turn = some (c', o)) :
      Idle codec keeps c' (tr ++ o) := idle_step hidle hturn h
  have hinv := run_invariant hstep hinit hturns h
  rcases hinv with ⟨⟨-, stage, hleads, hstage⟩, hoff⟩ |
    ⟨accept, told, wanted, frame, hat, -, -, rfl, -⟩
  · exact ⟨stage, hleads, hstage, fun hopen => absurd hopen hoff⟩
  · exact ⟨_, hat.2.2, iff_of_false (by simp) (by simp [hat.2.1]),
      fun _ => ⟨accept, told, wanted, rfl⟩⟩

/-! ## A run -/

def documentedStreamMode (value : ℕ) : StreamMode :=
  if value = 0 then .rawPointStream
  else if value = 3 then .frameByCount
  else .other (UInt16.ofNat value)

def documentedRecordType (value : ℕ) : RecordType :=
  if value = 2 then .accept
  else if value = 8 then .pong
  else if value = 9 then .close
  else .other (UInt16.ofNat value)

/-- The layouts that the protocol's document gives. -/
def documentedCodec : Codec where
  decodeRecordHeader bytes :=
    if bytes.length = 12 then
      some ⟨documentedRecordType (Endian.big (bytes.take 2)),
        UInt32.ofNat (Endian.big ((bytes.drop 4).take 4))⟩
    else none
  decodeAccept bytes :=
    if bytes.length = 32 then
      some
        { acceptedStreamMode := documentedStreamMode (Endian.big (bytes.take 2))
          acceptedUserChannelCount := UInt8.ofNat (Endian.big ((bytes.drop 2).take 1))
          defaultPointRate := UInt32.ofNat (Endian.big ((bytes.drop 4).take 4))
          maxPointRate := UInt32.ofNat (Endian.big ((bytes.drop 8).take 4))
          maxFramePointCount := UInt32.ofNat (Endian.big ((bytes.drop 12).take 4))
          maxRecordPayloadSize := UInt32.ofNat (Endian.big ((bytes.drop 16).take 4))
          sessionId := UInt64.ofNat (Endian.big ((bytes.drop 20).take 8))
          featureFlags := UInt32.ofNat (Endian.big ((bytes.drop 28).take 4)) }
    else none
  pointSampleSize userChannelCount := 12 + 2 * userChannelCount.toNat
  featureScannerSync := 4

/-- The receiver takes frames by count of two points at most, one point a record, and handles the
scanner sync. -/
def plainAccept : ReadAnswer :=
  .bytes (some [0, 2, 0, 0, 0, 0, 0, 32, 0, 0, 0, 0])
    (some [0, 3, 2, 0, 0, 0, 117, 48, 0, 1, 134, 160, 0, 0, 0, 2, 0, 0, 0, 16,
      0, 0, 0, 0, 0, 0, 0, 7, 0, 0, 0, 4])

def plainInfo : LiberaProtocolControllerInfo := ⟨true, 2, 100000, 300000⟩

def plainConnect : ConnectAnswers ℚ :=
  ⟨true, ⟨.ok, plainAccept, 1, .ok, .ok, ⟨0, true, .ok⟩⟩, 2, 3⟩

/-- A frame of two points, and the second cannot be sent. -/
def plainContent : ContentAnswers ℚ ℚ where
  sync := ⟨1, true, .ok⟩
  now := 7
  frame request :=
    if 2 ≤ request.maximumPointsRequired then some { points := [default, default] } else none
  batch := none
  marker := .ok
  points passes := if passes = 0 then .failed else .ok
  sentAt := 8

/-- A session that is lost within a frame. -/
def lostWithinFrame : List (SessionTurn ℚ ℚ) :=
  [.connect plainInfo plainConnect, .startThread,
    .pass ⟨true, plainConnect, ⟨true, [], 4, .ok⟩, 6, plainContent⟩]

theorem session_follows_protocol_lost :
    ∃ c o, run (step documentedCodec) {} lostWithinFrame = some (c, o) ∧ o.length = 15 ∧
      ∃ stage, Leads (Stage.next documentedCodec true) .down o stage ∧
        (stage = .down ↔ c.socket = .none ∨ c.socket = .closed) := by
  have hlength : (run (step documentedCodec) {} lostWithinFrame).map (·.2.length) = some 15 := by
    decide +kernel
  obtain ⟨⟨c, o⟩, hrun, hlength⟩ := Option.map_eq_some_iff.mp hlength
  have hcontent : plainContent.Counted true := by
    intro request frame hframe
    obtain ⟨hrequest, hframe⟩ := Option.ite_none_right_eq_some.mp hframe
    cases hframe
    exact ⟨by decide, fun _ => hrequest⟩
  have hcounted : ∀ turn ∈ lostWithinFrame, turn.Counted true := by
    simp [lostWithinFrame, SessionTurn.Counted, hcontent]
  obtain ⟨stage, hleads, hstage, -⟩ := session_follows_protocol true hcounted hrun
  exact ⟨c, o, hrun, hlength, stage, hleads, hstage⟩

end LiberaLaser.LiberaProtocol

import Ssim.Gem.Server
import Ssim.Library.Outbox
import Ssim.Library.Runs

/-!
# Connections of the server

The server with any handler in the place of the GEM service, and any requests, replies and
tasks posted to it.  Beside the state it keeps the moves of the write queue: which byte vector
was queued, and which was handed to the socket, in which generation.
-/

namespace Ssim.Gem

open Ssim.Core (Error Result)
open Hsms (Session SessionConfig SessionOutput ConnectionState Delivery TimePoint)
open Secs2 (Message)
open Library (Move Outbox)
open Library.Runs (run invariant)

/-- What a handler of the server does with its own state. -/
structure HsmsHandler (H : Type) where
  onSessionState : H → ConnectionState → H
  onData : H → TimePoint → Delivery → H
  onTransactionTimeout : H → UInt32 → H
  onError : H → String → H

structure Connection (H : Type) where
  server : Server
  handler : H
  moves : List (Move (List UInt8))

namespace Connection

variable {H : Type}

def fresh (config : SessionConfig) (handler : H) : Connection H where
  server := .fresh config
  handler := handler
  moves := []

def withSession (connection : Connection H) (session : Session) : Connection H :=
  { connection with server := { connection.server with session := session } }

/-! ## Writing -/

def writeNext (connection : Connection H) : Connection H :=
  match connection.server.connected, connection.server.writeQueue with
  | true, front :: _ =>
      { connection with
        server := connection.server.writeNext
        moves := connection.moves ++ [.handed connection.server.generation front] }
  | _, _ => { connection with server := connection.server.writeNext }

def enqueue (connection : Connection H) (out : SessionOutput) : Connection H :=
  let connection : Connection H :=
    { connection with
      server :=
        { connection.server with writeQueue := connection.server.writeQueue ++ out.toSend }
      moves := connection.moves ++ out.toSend.map (.queued connection.server.generation) }
  if !out.close && !connection.server.writeQueue.isEmpty && !connection.server.writing then
    connection.writeNext
  else
    connection

def readNext (connection : Connection H) : Connection H :=
  { connection with server := connection.server.readNext }

section Handlers

variable (api : HsmsHandler H)

def notifyState (connection : Connection H) : Connection H :=
  if connection.server.session.state ≠ connection.server.notifiedState then
    { connection with
      server := { connection.server with notifiedState := connection.server.session.state }
      handler := api.onSessionState connection.handler connection.server.session.state }
  else
    connection

def closeSocket (connection : Connection H) : Connection H :=
  notifyState api
    { connection with server :=
        { connection.server with
          connected := false
          generation := connection.server.generation + 1
          writeQueue := []
          writing := false
          session := connection.server.session.onDisconnect } }

def apply (connection : Connection H) (now : TimePoint) (out : SessionOutput) : Connection H :=
  let connection := connection.enqueue out
  let handler := out.deliveries.foldl (fun handler delivery => api.onData handler now delivery)
    connection.handler
  let handler := out.timedOut.foldl api.onTransactionTimeout handler
  let connection := notifyState api { connection with handler := handler }
  if out.close then closeSocket api connection else connection

/-! ## Completion handlers -/

inductive Input (H : Type) where
  | accept (now : TimePoint)
  | acceptFailed
  /-- The started read with this index completes with these bytes. -/
  | read (operation : Nat) (now : TimePoint) (bytes : List UInt8)
  | readFailed (operation : Nat)
  | written (operation : Nat)
  | writeFailed (operation : Nat) (what : String)
  | tick (now : TimePoint)
  | request (now : TimePoint) (message : Message) (onSent : UInt32 → H → H)
  | reply (now : TimePoint) (systemBytes : UInt32) (message : Message)
  | task (body : H → H)
  | stop

/-- A second connection is refused. -/
def accept (connection : Connection H) (now : TimePoint) : Connection H :=
  if connection.server.connected then
    connection
  else
    let (session, out) := connection.server.session.onConnect now
    let server :=
      { connection.server with
        connected := true
        generation := connection.server.generation + 1
        session := session }
    (apply api { connection with server := server } now out).readNext

def readCompleted (connection : Connection H) (generation : Nat) (now : TimePoint)
    (bytes : List UInt8) : Connection H :=
  if generation ≠ connection.server.generation then
    connection
  else
    let (session, out) := connection.server.session.onBytes now bytes
    let connection := apply api (connection.withSession session) now out
    if connection.server.connected ∧ generation = connection.server.generation then
      connection.readNext
    else
      connection

def readAborted (connection : Connection H) (generation : Nat) : Connection H :=
  if generation ≠ connection.server.generation then connection else closeSocket api connection

def writeCompleted (connection : Connection H) (generation : Nat) : Connection H :=
  if generation ≠ connection.server.generation then
    connection
  else
    { connection with
      server :=
        { connection.server with writeQueue := connection.server.writeQueue.tail } }.writeNext

def writeAborted (connection : Connection H) (generation : Nat) (what : String) :
    Connection H :=
  if generation ≠ connection.server.generation then
    connection
  else
    closeSocket api
      { connection with handler := api.onError connection.handler ("write failed: " ++ what) }

def tick (connection : Connection H) (now : TimePoint) : Option (Connection H) :=
  if !connection.server.connected then
    some connection
  else
    (connection.server.session.onTick now).map fun (session, out) =>
      apply api (connection.withSession session) now out

def runRequest (connection : Connection H) (now : TimePoint) (message : Message)
    (onSent : UInt32 → H → H) : Option (Connection H) :=
  if !connection.server.connected then
    some { connection with
      handler := api.onError connection.handler "request dropped: no host connected" }
  else
    (connection.server.session.sendRequest now message {}).map fun (sent, session, out) =>
      let connection := connection.withSession session
      match sent with
      | .error reason =>
          apply api { connection with
            handler := api.onError connection.handler ("request not sent: " ++ reason.message) }
            now out
      | .ok systemBytes =>
          let connection := apply api connection now out
          { connection with handler := onSent systemBytes connection.handler }

def runReply (connection : Connection H) (now : TimePoint) (systemBytes : UInt32)
    (message : Message) : Connection H :=
  if !connection.server.connected then
    { connection with
      handler := api.onError connection.handler "reply dropped: no host connected" }
  else
    match connection.server.session.sendReply systemBytes message {} with
    | (.error reason, out) =>
        apply api { connection with
          handler := api.onError connection.handler ("reply not sent: " ++ reason.message) } now out
    | (.ok _, out) => apply api connection now out

def takeRead (connection : Connection H) (operation : Nat) : Option (Nat × Connection H) :=
  connection.server.pendingReads[operation]?.map fun generation =>
    (generation, { connection with server :=
      { connection.server with
        pendingReads := connection.server.pendingReads.eraseIdx operation } })

def takeWrite (connection : Connection H) (operation : Nat) : Option (Nat × Connection H) :=
  connection.server.pendingWrites[operation]?.map fun write =>
    (write.1, { connection with server :=
      { connection.server with
        pendingWrites := connection.server.pendingWrites.eraseIdx operation } })

def step (connection : Connection H) : Input H → Option (Connection H)
  | .accept now => some (accept api connection now)
  | .acceptFailed => some connection
  | .read operation now bytes =>
      (connection.takeRead operation).map fun (generation, connection) =>
        readCompleted api connection generation now bytes
  | .readFailed operation =>
      (connection.takeRead operation).map fun (generation, connection) =>
        readAborted api connection generation
  | .written operation =>
      (connection.takeWrite operation).map fun (generation, connection) =>
        connection.writeCompleted generation
  | .writeFailed operation what =>
      (connection.takeWrite operation).map fun (generation, connection) =>
        writeAborted api connection generation what
  | .tick now => tick api connection now
  | .request now message onSent => runRequest api connection now message onSent
  | .reply now systemBytes message => some (runReply api connection now systemBytes message)
  | .task body => some { connection with handler := body connection.handler }
  | .stop => some (closeSocket api connection)

end Handlers

/-! ## The link -/

/-- The part of a connection that its isolation is about. -/
structure Link where
  connected : Bool
  reads : List Nat
  box : Outbox (List UInt8)

namespace Link

def closed (link : Link) : Link :=
  { link with connected := false, box := link.box.renew }

def opened (link : Link) : Link :=
  { link with connected := true, box := link.box.renew }

/-- What an output does to the link. -/
def applied (link : Link) (out : SessionOutput) : Link :=
  if out.close then
    { link with box := link.box.put out.toSend }.closed
  else
    { link with box := (link.box.put out.toSend).wake }

structure Sound (link : Link) : Prop where
  box : link.box.Sound
  idle : link.connected = false → link.box.queue = []
  past : ∀ generation ∈ link.reads, generation ≤ link.box.generation
  reading : link.box.generation ∈ link.reads → link.connected = true

theorem Sound.renewed {link : Link} (sound : Sound link) (connected : Bool) :
    Sound { link with connected := connected, box := link.box.renew } := by
  refine ⟨sound.box.renew, fun _ => rfl, ?_, ?_⟩
  · intro generation member
    exact Nat.le_succ_of_le (sound.past generation member)
  · intro member
    exact absurd (sound.past _ member) (Nat.not_succ_le_self _)

theorem Sound.applied {link : Link} (sound : Sound link) (out : SessionOutput)
    (connected : link.connected = true) : Sound (link.applied out) := by
  have queued : Sound { link with box := link.box.put out.toSend } :=
    ⟨sound.box.put out.toSend, by simp [connected], sound.past, fun _ => connected⟩
  unfold Link.applied
  split
  · exact queued.renewed false
  · refine ⟨queued.box.wake, by simp [connected], ?_, fun _ => connected⟩
    rw [Outbox.wake_generation]
    exact sound.past

end Link

variable {api : HsmsHandler H}

def link (connection : Connection H) : Link where
  connected := connection.server.connected
  reads := connection.server.pendingReads
  box := ⟨connection.server.generation, connection.server.writeQueue, connection.server.writing,
    connection.server.pendingWrites, connection.moves⟩

theorem link_writeNext {connection : Connection H}
    (connected : connection.server.connected = true) :
    connection.writeNext.link = { connection.link with box := connection.link.box.send } := by
  unfold writeNext Server.writeNext Outbox.send link
  simp only [connected]
  cases connection.server.writeQueue <;> simp

theorem link_notifyState (connection : Connection H) :
    (notifyState api connection).link = connection.link := by
  unfold notifyState
  split <;> rfl

theorem link_closeSocket (connection : Connection H) :
    (closeSocket api connection).link = connection.link.closed := by
  rw [closeSocket, link_notifyState]
  rfl

theorem link_enqueue {connection : Connection H} (out : SessionOutput)
    (connected : connection.server.connected = true) :
    (connection.enqueue out).link =
      { connection.link with
        box :=
          if out.close then connection.link.box.put out.toSend
          else (connection.link.box.put out.toSend).wake } := by
  unfold enqueue Outbox.wake
  dsimp only
  cases out.close with
  | true => rfl
  | false =>
      simp only [Bool.not_false, Bool.true_and]
      rw [apply_ite link, link_writeNext (by exact connected)]
      split <;> simp_all [link, Outbox.put]

theorem link_apply {connection : Connection H} (now : TimePoint) (out : SessionOutput)
    (connected : connection.server.connected = true) :
    (apply api connection now out).link = connection.link.applied out := by
  have queued := link_enqueue out connected
  unfold apply Link.applied
  dsimp only
  cases closing : out.close with
  | true =>
      rw [closing] at queued
      rw [if_pos rfl, if_pos rfl, link_closeSocket, link_notifyState]
      exact congrArg Link.closed queued
  | false =>
      rw [closing] at queued
      rw [if_neg (by simp), if_neg (by simp), link_notifyState]
      exact queued

theorem link_readNext {connection : Connection H} (connected : connection.server.connected = true) :
    connection.readNext.link =
      { connection.link with
        reads := connection.link.reads ++ [connection.link.box.generation] } := by
  simp [readNext, Server.readNext, connected, link]

theorem sound_readNext {connection : Connection H} (sound : connection.link.Sound) :
    connection.readNext.link.Sound := by
  cases connected : connection.server.connected with
  | false =>
      rw [readNext, Server.readNext, if_neg (by simp [connected])]
      exact sound
  | true =>
      rw [link_readNext connected]
      refine ⟨sound.box, sound.idle, ?_, fun _ => connected⟩
      intro generation member
      rcases List.mem_append.mp member with old | new
      · exact sound.past generation old
      · exact Nat.le_of_eq (List.mem_singleton.mp new)

/-- An output is applied after changes that do not concern the link. -/
theorem sound_apply {connection changed : Connection H} (sound : connection.link.Sound)
    (connected : connection.server.connected = true) (same : changed.link = connection.link)
    (now : TimePoint) (out : SessionOutput) : (apply api changed now out).link.Sound := by
  have stillConnected : changed.server.connected = true :=
    (congrArg Link.connected same).trans connected
  rw [link_apply now out stillConnected, same]
  exact sound.applied out connected

theorem sound_closeSocket {connection : Connection H} (sound : connection.link.Sound) :
    (closeSocket api connection).link.Sound := by
  rw [link_closeSocket]
  exact sound.renewed false

theorem sound_accept {connection : Connection H} (sound : connection.link.Sound)
    (now : TimePoint) : (accept api connection now).link.Sound := by
  cases connected : connection.server.connected with
  | true =>
      rw [accept, if_pos connected]
      exact sound
  | false =>
      have empty : connection.server.writeQueue = [] := sound.idle connected
      have quiet : connection.server.writing = false := by
        by_contra writing
        exact sound.box.busy (Bool.of_not_eq_false writing) empty
      rw [accept, if_neg (by simp [connected])]
      generalize connection.server.session.onConnect now = result
      obtain ⟨session, out⟩ := result
      refine sound_readNext ?_
      rw [link_apply now out (by rfl)]
      refine Link.Sound.applied ?_ out rfl
      have opened := sound.renewed true
      simpa [link, Outbox.renew, empty, quiet] using opened

/-! ## Completions -/

theorem sound_takeRead {connection taken : Connection H} {operation generation : Nat}
    (sound : connection.link.Sound)
    (took : connection.takeRead operation = some (generation, taken)) :
    taken.link.Sound ∧ (generation = taken.server.generation → taken.server.connected = true) ∧
      taken = { connection with server := { connection.server with
        pendingReads := connection.server.pendingReads.eraseIdx operation } } := by
  obtain ⟨found, member, same⟩ := Option.map_eq_some_iff.mp took
  obtain ⟨rfl, rfl⟩ := Prod.mk.inj same
  refine ⟨⟨sound.box, sound.idle, ?_, ?_⟩, ?_, rfl⟩
  · intro other inside
    exact sound.past other (List.mem_of_mem_eraseIdx inside)
  · intro inside
    exact sound.reading (List.mem_of_mem_eraseIdx inside)
  · rintro rfl
    exact sound.reading (List.mem_of_getElem? member)

theorem sound_readCompleted {connection : Connection H} {generation : Nat}
    (sound : connection.link.Sound)
    (connected : generation = connection.server.generation → connection.server.connected = true)
    (now : TimePoint) (bytes : List UInt8) :
    (readCompleted api connection generation now bytes).link.Sound := by
  unfold readCompleted
  split
  · exact sound
  next current =>
    generalize connection.server.session.onBytes now bytes = result
    obtain ⟨session, out⟩ := result
    have applied : (apply api (connection.withSession session) now out).link.Sound :=
      sound_apply sound (connected (by simpa using current)) (by rfl) now out
    dsimp only
    split
    · exact sound_readNext applied
    · exact applied

theorem link_takeWrite {connection taken : Connection H} {operation generation : Nat}
    (took : connection.takeWrite operation = some (generation, taken)) :
    taken = { connection with server := { connection.server with
      pendingWrites := connection.server.pendingWrites.eraseIdx operation } } ∧
      ∃ bytes, connection.link.box.inFlight[operation]? = some (generation, bytes) := by
  obtain ⟨⟨started, bytes⟩, member, same⟩ := Option.map_eq_some_iff.mp took
  obtain ⟨rfl, rfl⟩ := Prod.mk.inj same
  exact ⟨rfl, bytes, member⟩

/-- A write of the current generation is in flight only while there is a connection. -/
theorem connected_of_flight {link : Link} (sound : link.Sound) {bytes : List UInt8}
    (flight : (link.box.generation, bytes) ∈ link.box.inFlight) : link.connected = true := by
  by_contra offline
  have empty := sound.idle (by simpa using offline)
  have flying := sound.box.flying
  have none : link.box.current = [] := by simp [Outbox.current, empty]
  rw [none, List.map_nil, List.filter_eq_nil_iff] at flying
  simpa using flying _ flight

theorem sound_written {connection taken : Connection H} {operation generation : Nat}
    (sound : connection.link.Sound)
    (took : connection.takeWrite operation = some (generation, taken)) :
    (taken.writeCompleted generation).link.Sound := by
  obtain ⟨rfl, bytes, found⟩ := link_takeWrite took
  unfold writeCompleted
  split
  next stale =>
    exact ⟨sound.box.take_stale found stale, sound.idle, sound.past, sound.reading⟩
  next current =>
    obtain rfl : generation = connection.link.box.generation := not_not.mp current
    have connected := connected_of_flight sound (List.mem_of_getElem? found)
    rw [link_writeNext (by exact connected)]
    refine ⟨sound.box.take_current found, fun offline => ?_, ?_, fun _ => connected⟩
    · exact absurd (connected.symm.trans offline) (by simp)
    · rw [Outbox.send_generation]
      exact sound.past

theorem sound_aborted {connection taken : Connection H} {operation generation : Nat}
    (sound : connection.link.Sound)
    (took : connection.takeWrite operation = some (generation, taken)) (what : String) :
    (writeAborted api taken generation what).link.Sound := by
  obtain ⟨rfl, bytes, found⟩ := link_takeWrite took
  unfold writeAborted
  split
  next stale =>
    exact ⟨sound.box.take_stale found stale, sound.idle, sound.past, sound.reading⟩
  next current =>
    rw [link_closeSocket]
    have renewed := sound.renewed false
    exact ⟨sound.box.take_renew operation, renewed.idle, renewed.past, renewed.reading⟩

/-! ## Every step of every run -/

theorem sound_runRequest {connection next : Connection H} (sound : connection.link.Sound)
    {now : TimePoint} {message : Message} {onSent : UInt32 → H → H}
    (taken : runRequest api connection now message onSent = some next) : next.link.Sound := by
  unfold runRequest at taken
  split at taken
  · obtain rfl := Option.some.inj taken
    exact sound
  next connected =>
    have connected : connection.server.connected = true := by simpa using connected
    obtain ⟨⟨sent, session, out⟩, -, rfl⟩ := Option.map_eq_some_iff.mp taken
    cases sent with
    | error reason =>
        refine sound_apply sound connected ?_ now out
        rfl
    | ok systemBytes =>
        have applied : (apply api (connection.withSession session) now out).link.Sound :=
          sound_apply sound connected (by rfl) now out
        exact applied

theorem sound_runReply {connection : Connection H} (sound : connection.link.Sound)
    (now : TimePoint) (systemBytes : UInt32) (message : Message) :
    (runReply api connection now systemBytes message).link.Sound := by
  unfold runReply
  split
  · exact sound
  next connected =>
    have connected : connection.server.connected = true := by simpa using connected
    generalize connection.server.session.sendReply systemBytes message {} = result
    obtain ⟨sent, out⟩ := result
    cases sent with
    | error reason =>
        refine sound_apply sound connected ?_ now out
        rfl
    | ok done => exact sound_apply sound connected (by rfl) now out

/-- One handler keeps the link sound. -/
theorem sound_step {connection next : Connection H} {input : Input H}
    (sound : connection.link.Sound) (taken : step api connection input = some next) :
    next.link.Sound := by
  cases input with
  | accept now =>
      obtain rfl := Option.some.inj taken
      exact sound_accept sound now
  | acceptFailed =>
      obtain rfl := Option.some.inj taken
      exact sound
  | read operation now bytes =>
      obtain ⟨⟨generation, left⟩, took, rfl⟩ := Option.map_eq_some_iff.mp taken
      obtain ⟨kept, connected, -⟩ := sound_takeRead sound took
      exact sound_readCompleted kept connected now bytes
  | readFailed operation =>
      obtain ⟨⟨generation, left⟩, took, rfl⟩ := Option.map_eq_some_iff.mp taken
      obtain ⟨kept, -, -⟩ := sound_takeRead sound took
      unfold readAborted
      dsimp only
      split
      · exact kept
      · exact sound_closeSocket kept
  | written operation =>
      obtain ⟨⟨generation, left⟩, took, rfl⟩ := Option.map_eq_some_iff.mp taken
      exact sound_written sound took
  | writeFailed operation what =>
      obtain ⟨⟨generation, left⟩, took, rfl⟩ := Option.map_eq_some_iff.mp taken
      exact sound_aborted sound took what
  | tick now =>
      change tick api connection now = some next at taken
      unfold tick at taken
      split at taken
      · obtain rfl := Option.some.inj taken
        exact sound
      next connected =>
        obtain ⟨⟨session, out⟩, -, rfl⟩ := Option.map_eq_some_iff.mp taken
        have connected : connection.server.connected = true := by simpa using connected
        refine sound_apply sound connected ?_ now out
        rfl
  | request now message onSent => exact sound_runRequest sound taken
  | reply now systemBytes message =>
      obtain rfl := Option.some.inj taken
      exact sound_runReply sound now systemBytes message
  | task body =>
      obtain rfl := Option.some.inj taken
      exact sound
  | stop =>
      obtain rfl := Option.some.inj taken
      exact sound_closeSocket sound

theorem sound_fresh (config : SessionConfig) (handler : H) : (fresh config handler).link.Sound :=
  ⟨Outbox.sound_fresh, fun _ => rfl, by simp [link, fresh, Server.fresh],
    by simp [link, fresh, Server.fresh]⟩

theorem sound_of_run {config : SessionConfig} {handler : H} {inputs : List (Input H)}
    {connection : Connection H}
    (reached : run (step api) (fresh config handler) inputs = some connection) :
    connection.link.Sound :=
  invariant (fun connection : Connection H => connection.link.Sound)
    (fun sound taken => sound_step sound taken) (sound_fresh config handler) reached

/--
A completion that was started in another generation: nothing but the operation itself is
gone afterwards.
-/
def StaleIgnored (api : HsmsHandler H) (connection : Connection H) : Prop :=
  (∀ operation generation, connection.server.pendingReads[operation]? = some generation →
    generation ≠ connection.server.generation →
    (∀ now bytes, step api connection (.read operation now bytes) =
      some { connection with server := { connection.server with
        pendingReads := connection.server.pendingReads.eraseIdx operation } }) ∧
    step api connection (.readFailed operation) =
      some { connection with server := { connection.server with
        pendingReads := connection.server.pendingReads.eraseIdx operation } }) ∧
  ∀ operation generation bytes,
    connection.server.pendingWrites[operation]? = some (generation, bytes) →
    generation ≠ connection.server.generation →
    step api connection (.written operation) =
      some { connection with server := { connection.server with
        pendingWrites := connection.server.pendingWrites.eraseIdx operation } } ∧
    ∀ what, step api connection (.writeFailed operation what) =
      some { connection with server := { connection.server with
        pendingWrites := connection.server.pendingWrites.eraseIdx operation } }

theorem staleIgnored (connection : Connection H) : StaleIgnored api connection := by
  refine ⟨fun operation generation found stale => ⟨fun now bytes => ?_, ?_⟩,
    fun operation generation bytes found stale => ⟨?_, fun what => ?_⟩⟩
  · simp [step, takeRead, found, readCompleted, stale]
  · simp [step, takeRead, found, readAborted, stale]
  · simp [step, takeWrite, found, writeCompleted, stale]
  · simp [step, takeWrite, found, writeAborted, stale]

/--
In every run, whatever the handlers do and in whatever order they run: what is handed to the
socket in a generation is the next byte vector that was queued in it, so they are handed over
in the order they were queued and each at most once; at most one write of the current
generation is in flight; and a completion of another generation changes nothing.
-/
theorem connections_are_isolated (api : HsmsHandler H) {config : SessionConfig} {handler : H}
    {inputs : List (Input H)} {connection : Connection H}
    (reached : run (step api) (fresh config handler) inputs = some connection) :
    Move.Orderly connection.moves ∧
      (∀ generation, Move.handedIn generation connection.moves <+:
        Move.queuedIn generation connection.moves) ∧
      (connection.server.pendingWrites.filter fun write =>
        write.1 = connection.server.generation).length ≤ 1 ∧
      StaleIgnored api connection := by
  have sound := (sound_of_run reached).box
  exact ⟨sound.orderly, sound.orderly.handedIn_prefix, sound.one_flight,
    staleIgnored connection⟩

/-- A new connection whose Select.req is answered: one write is in flight. -/
theorem connections_are_isolated_select :
    ∃ connection : Connection Unit,
      run (step ⟨fun handler _ => handler, fun handler _ _ => handler, fun handler _ => handler,
          fun handler _ => handler⟩) (fresh {} ())
        [.accept 0, .read 0 1 (controlBytes .selectReq 7)] = some connection ∧
      connection.server.pendingWrites.length = 1 ∧ Move.Orderly connection.moves :=
  ⟨_, rfl, rfl, (@connections_are_isolated Unit _ {} () [.accept 0,
    .read 0 1 (controlBytes .selectReq 7)] _ rfl).1⟩

end Connection

end Ssim.Gem

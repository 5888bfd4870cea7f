import TrafficMeter.Cancellation

/-! # What tokens see

A token refers to a flag and to a channel, and so does the owner, who alone can raise the flag and
close the channel. All tokens of an owner share the two, so that all of them give the answers of
one signal. Asking and waiting agree as long as the owner does not close the channel without
raising the flag, which it does when it is dropped before it has cancelled.
-/

namespace TrafficMeter.Cancellation

/-- The flag that a token looks at, and the channel that it listens to. -/
structure Token where
  flag : Nat
  channel : Nat
  deriving DecidableEq

/-- The owner's flag, the channel whose sending end it holds, and the token that it copies. -/
structure Owner where
  flag : Nat
  sender : Option Nat
  token : Token

/-- The flags and the channels, the owner while it is there, and all tokens in the order in which
they were made. -/
structure Scene where
  raised : Nat → Bool
  connected : Nat → Bool
  owner : Option Owner
  tokens : List Token

/-- What is done with the owner or one of its tokens. -/
inductive Action where
  /-- A token is taken from the owner. -/
  | take
  /-- The token of that number is cloned. -/
  | clone (number : Nat)
  | cancel
  /-- The owner is dropped. -/
  | drop
  deriving DecidableEq

/-- The state that the tokens share, after an action. -/
def perform (cancellation : Cancellation) : Action → Cancellation
  | .take | .clone _ => cancellation.addToken.1
  | .cancel => cancellation.cancel
  | .drop => cancellation.drop

namespace Scene

/-- A new owner with its flag and its channel, and a first token. -/
def create (flag channel : Nat) : Scene where
  raised := fun _ => false
  connected := fun _ => true
  owner := some ⟨flag, some channel, ⟨flag, channel⟩⟩
  tokens := [⟨flag, channel⟩]

/-- A channel without its sending end is closed. -/
def close (scene : Scene) : Option Nat → Scene
  | none => scene
  | some sender =>
      { scene with connected := fun channel => channel != sender && scene.connected channel }

/-- One action; none if there is no such token or the owner is not there any more. -/
def step (scene : Scene) : Action → Option Scene
  | .take => scene.owner.map fun owner => { scene with tokens := scene.tokens ++ [owner.token] }
  | .clone number =>
      scene.tokens[number]?.map fun token => { scene with tokens := scene.tokens ++ [token] }
  | .cancel => scene.owner.map fun owner =>
      { scene.close owner.sender with
        raised := fun flag => flag == owner.flag || scene.raised flag
        owner := some { owner with sender := none } }
  | .drop => scene.owner.map fun owner => { scene.close owner.sender with owner := none }

/-- Some actions, one after the other. -/
def run (scene : Scene) : List Action → Option Scene
  | [] => some scene
  | action :: actions => (scene.step action).bind fun next => next.run actions

def isCancelled (scene : Scene) (token : Token) : Bool := scene.raised token.flag

def check (scene : Scene) (token : Token) : Except Cancelled Unit :=
  if scene.isCancelled token then .error .cancelled else .ok ()

/-- The answer to a wait, and how long it takes. Nothing is ever sent on the channel, so that only
its closing ends the wait before its time. -/
def wait (scene : Scene) (token : Token) (time : Span) : Except Cancelled Unit × Span :=
  match scene.check token with
  | .error cause => (.error cause, .zero)
  | .ok () => if scene.connected token.channel then (.ok (), time) else (.error .cancelled, .zero)

end Scene

/-- In the scene all tokens share this signal, and the owner holds what can change it. -/
structure Shares (signal : Signal) (flag channel : Nat) (scene : Scene) : Prop where
  raised : scene.raised flag = signal.flag
  connected : scene.connected channel = signal.channelOpen
  tokens : ∀ token ∈ scene.tokens, token = ⟨flag, channel⟩
  owner : ∀ owner, scene.owner = some owner → owner.flag = flag ∧ owner.token = ⟨flag, channel⟩ ∧
    owner.sender = if signal.channelOpen then some channel else none

section Sharing

variable {cancellation : Cancellation} {flag channel : Nat} {scene next : Scene} {action : Action}
  {history : List Action}

theorem shares_create (flag channel : Nat) :
    Shares Cancellation.new.signal flag channel (.create flag channel) where
  raised := rfl
  connected := rfl
  tokens := by simp [Scene.create]
  owner := by simp [Scene.create, Cancellation.new, Signal.fresh]

@[simp] theorem Scene.raised_close (scene : Scene) (sender : Option Nat) :
    (scene.close sender).raised = scene.raised := by
  cases sender <;> rfl

@[simp] theorem Scene.tokens_close (scene : Scene) (sender : Option Nat) :
    (scene.close sender).tokens = scene.tokens := by
  cases sender <;> rfl

/-- The owner still holds the sending end, or the channel has been closed before. -/
theorem Shares.close {signal : Signal} (shares : Shares signal flag channel scene) {owner : Owner}
    (owned : scene.owner = some owner) :
    (scene.close owner.sender).connected channel = false := by
  obtain ⟨_, _, sender⟩ := shares.owner owner owned
  have connected := shares.connected
  cases listening : signal.channelOpen <;> simp_all [Scene.close]

theorem Shares.step (shares : Shares cancellation.signal flag channel scene)
    (steps : scene.step action = some next) :
    Shares (cancellation.perform action).signal flag channel next := by
  cases action with
  | take =>
      obtain ⟨owner, owned, rfl⟩ := Option.map_eq_some_iff.mp steps
      obtain ⟨_, copied, _⟩ := shares.owner owner owned
      refine ⟨shares.raised, shares.connected, ?_, shares.owner⟩
      simpa [or_imp, forall_and, copied] using shares.tokens
  | clone number =>
      obtain ⟨token, numbered, rfl⟩ := Option.map_eq_some_iff.mp steps
      have copied := shares.tokens token (List.mem_of_getElem? numbered)
      refine ⟨shares.raised, shares.connected, ?_, shares.owner⟩
      simpa [or_imp, forall_and, copied] using shares.tokens
  | cancel =>
      obtain ⟨owner, owned, rfl⟩ := Option.map_eq_some_iff.mp steps
      obtain ⟨flagged, copied, _⟩ := shares.owner owner owned
      refine ⟨by simp [perform, Cancellation.cancel, flagged], shares.close owned, ?_, ?_⟩
      · simpa using shares.tokens
      · rintro _ ⟨⟩
        exact ⟨flagged, copied, rfl⟩
  | drop =>
      obtain ⟨owner, owned, rfl⟩ := Option.map_eq_some_iff.mp steps
      refine ⟨by simpa [perform, Cancellation.drop] using shares.raised, shares.close owned, ?_, ?_⟩
      · simpa using shares.tokens
      · rintro _ ⟨⟩

theorem tokens_perform (cancellation : Cancellation) (steps : scene.step action = some next)
    (counted : cancellation.tokens = scene.tokens.length) :
    (cancellation.perform action).tokens = next.tokens.length := by
  cases action with
  | take | clone number =>
      obtain ⟨_, _, rfl⟩ := Option.map_eq_some_iff.mp steps
      simp [perform, addToken, counted]
  | cancel | drop =>
      obtain ⟨_, _, rfl⟩ := Option.map_eq_some_iff.mp steps
      simp [perform, Cancellation.cancel, Cancellation.drop, counted]

end Sharing

section Histories

variable {cancellation : Cancellation} {flag channel : Nat} {scene last : Scene}
  {history later : List Action} {token : Token}

/-- The state that the tokens share, after some actions. -/
def after (cancellation : Cancellation) (history : List Action) : Cancellation :=
  history.foldl perform cancellation

theorem shares_of_run (shares : Shares cancellation.signal flag channel scene)
    (counted : cancellation.tokens = scene.tokens.length) (ran : scene.run history = some last) :
    Shares (cancellation.after history).signal flag channel last ∧
      (cancellation.after history).tokens = last.tokens.length := by
  induction history generalizing cancellation scene with
  | nil =>
      cases ran
      exact ⟨shares, counted⟩
  | cons action history ih =>
      obtain ⟨next, steps, ran⟩ := Option.bind_eq_some_iff.mp ran
      exact ih (shares.step steps) (tokens_perform cancellation steps counted) ran

theorem flag_after (cancellation : Cancellation) (history : List Action) :
    (cancellation.after history).signal.flag = true ↔
      cancellation.signal.flag = true ∨ .cancel ∈ history := by
  induction history generalizing cancellation with
  | nil => simp [after]
  | cons action history ih =>
      have first : (cancellation.perform action).signal.flag = true ↔
          cancellation.signal.flag = true ∨ action = .cancel := by
        cases action <;> simp [perform, addToken, Cancellation.cancel, Cancellation.drop]
      rw [after, List.foldl_cons]
      exact (ih _).trans (by rw [first, List.mem_cons, or_assoc, eq_comm (a := action)])

theorem channelOpen_after (cancellation : Cancellation) (history : List Action) :
    (cancellation.after history).signal.channelOpen = true ↔
      cancellation.signal.channelOpen = true ∧ .cancel ∉ history ∧ .drop ∉ history := by
  induction history generalizing cancellation with
  | nil => simp [after]
  | cons action history ih =>
      have first : (cancellation.perform action).signal.channelOpen = true ↔
          cancellation.signal.channelOpen = true ∧ action ≠ .cancel ∧ action ≠ .drop := by
        cases action <;>
          simp [perform, addToken, Cancellation.cancel, Cancellation.drop, Signal.drop]
      rw [after, List.foldl_cons]
      refine (ih _).trans ?_
      rw [first]
      simp only [List.mem_cons, not_or, ne_eq, eq_comm, and_assoc, and_left_comm]

theorem Scene.run_append (scene : Scene) (history later : List Action) :
    scene.run (history ++ later) = (scene.run history).bind fun middle => middle.run later := by
  induction history generalizing scene with
  | nil => rfl
  | cons action history ih => simp [Scene.run, ih, Option.bind_assoc]

theorem Scene.tokens_of_run (ran : scene.run later = some last) : scene.tokens <+: last.tokens := by
  induction later generalizing scene with
  | nil =>
      cases ran
      exact List.prefix_rfl
  | cons action later ih =>
      obtain ⟨next, steps, ran⟩ := Option.bind_eq_some_iff.mp ran
      refine List.IsPrefix.trans ?_ (ih ran)
      cases action <;> obtain ⟨_, _, rfl⟩ := Option.map_eq_some_iff.mp steps <;> simp

end Histories

section Answers

variable {signal : Signal} {flag channel : Nat} {scene last : Scene} {history : List Action}
  {token : Token}

theorem Shares.isCancelled (shares : Shares signal flag channel scene)
    (held : token ∈ scene.tokens) : scene.isCancelled token = signal.isCancelled := by
  rw [Scene.isCancelled, shares.tokens token held]
  exact shares.raised

theorem Shares.check (shares : Shares signal flag channel scene) (held : token ∈ scene.tokens) :
    scene.check token = signal.check := by
  rw [Scene.check, shares.isCancelled held]
  rfl

theorem Shares.wait (shares : Shares signal flag channel scene) (held : token ∈ scene.tokens)
    (time : Span) :
    scene.wait token time =
      match signal.wait with
      | .ok () => (.ok (), time)
      | .error cause => (.error cause, .zero) := by
  have connected : scene.connected token.channel = signal.channelOpen := by
    rw [shares.tokens token held]
    exact shares.connected
  rw [Scene.wait, Signal.wait, shares.check held, connected]
  cases signal.check with
  | error cause => rfl
  | ok _ => cases signal.channelOpen <;> rfl

/-- The signal of an owner tells what has been done with it. -/
theorem isCancelled_after (history : List Action) :
    (Cancellation.new.after history).signal.isCancelled = true ↔ .cancel ∈ history := by
  have raised := flag_after .new history
  simpa [Signal.isCancelled, Cancellation.new, Signal.fresh] using raised

theorem check_after (history : List Action) :
    (Cancellation.new.after history).signal.check =
      if .cancel ∈ history then .error .cancelled else .ok () := by
  have raised := isCancelled_after history
  rw [Signal.isCancelled] at raised
  simp only [Signal.check, raised]

theorem wait_after (history : List Action) :
    (Cancellation.new.after history).signal.wait =
      if .cancel ∈ history ∨ .drop ∈ history then .error .cancelled else .ok () := by
  have listening := channelOpen_after .new history
  rw [Signal.wait, check_after]
  by_cases cancelled : .cancel ∈ history
  · simp [cancelled]
  · by_cases gone : .drop ∈ history <;> simp_all [Cancellation.new, Signal.fresh]

end Answers

/-- Every token of an owner, whether taken or cloned, gives the answers of the one signal. It is
cancelled exactly if the owner has cancelled, and stays so. A wait ends at once with that answer if
the owner has cancelled or is gone, and otherwise lasts its whole time. So asking and waiting agree
exactly if an owner that is gone has cancelled before. -/
theorem tokens_agree_unless_abandoned {flag channel : Nat} {history : List Action} {scene : Scene}
    (ran : (Scene.create flag channel).run history = some scene) :
    let cancellation := Cancellation.new.after history
    cancellation.tokens = scene.tokens.length ∧
      (∀ token ∈ scene.tokens, ∀ time,
        scene.isCancelled token = cancellation.signal.isCancelled ∧
          scene.check token = cancellation.signal.check ∧
          (scene.wait token time).1 = cancellation.signal.wait ∧
          (scene.isCancelled token = true ↔ .cancel ∈ history) ∧
          scene.wait token time =
            (if .cancel ∈ history ∨ .drop ∈ history then (.error .cancelled, .zero)
            else (.ok (), time)) ∧
          (scene.check token = (scene.wait token time).1 ↔
            (.drop ∈ history → .cancel ∈ history))) ∧
      ∀ later last, scene.run later = some last → scene.tokens <+: last.tokens ∧
        (.cancel ∈ history → ∀ token ∈ last.tokens, ∀ time, last.isCancelled token = true ∧
          last.wait token time = (.error .cancelled, .zero)) := by
  intro cancellation
  obtain ⟨shares, counted⟩ := shares_of_run (shares_create flag channel) rfl ran
  refine ⟨counted, ?_, ?_⟩
  · intro token held time
    have waits := shares.wait held time
    rw [shares.isCancelled held, shares.check held]
    refine ⟨rfl, rfl, ?_, isCancelled_after history, ?_, ?_⟩
    · rw [waits]
      cases cancellation.signal.wait <;> rfl
    · rw [waits, wait_after]
      by_cases ended : .cancel ∈ history ∨ .drop ∈ history <;> simp only [ended, if_true, if_false]
    · rw [waits, check_after, wait_after]
      by_cases cancelled : .cancel ∈ history <;> by_cases gone : .drop ∈ history <;>
        simp [cancelled, gone]
  · intro later last ran_on
    refine ⟨Scene.tokens_of_run ran_on, ?_⟩
    intro cancelled token held time
    have whole : (Scene.create flag channel).run (history ++ later) = some last := by
      rw [Scene.run_append, ran, Option.bind_some, ran_on]
    have still : .cancel ∈ history ++ later := List.mem_append_left later cancelled
    obtain ⟨shares, _⟩ := shares_of_run (shares_create flag channel) rfl whole
    rw [shares.isCancelled held, shares.wait held, wait_after, if_pos (.inl still)]
    exact ⟨(isCancelled_after _).mpr still, rfl⟩

/-- A token that outlives its owner is not cancelled, but a wait of half a minute ends at once. -/
theorem abandoned_token_answers_apart :
    ∃ scene, (Scene.create 0 0).run [.clone 0, .drop] = some scene ∧
      scene.tokens = [⟨0, 0⟩, ⟨0, 0⟩] ∧ scene.isCancelled ⟨0, 0⟩ = false ∧
      scene.check ⟨0, 0⟩ = .ok () ∧
      scene.wait ⟨0, 0⟩ (.ofParts 30 0) = (.error .cancelled, .zero) ∧
      Cancellation.new.drop.signal.check = .ok () ∧
      Cancellation.new.drop.signal.wait = .error .cancelled := by
  exact ⟨_, rfl, rfl, rfl, rfl, rfl, rfl, rfl⟩

/-- The owner cancels twice and is dropped, and a token that outlives it is cloned. -/
theorem tokens_agree_unless_abandoned_outlived :
    let history := [Action.take, .cancel, .cancel, .drop]
    ∃ scene last, (Scene.create 3 5).run history = some scene ∧
      scene.run [.clone 1] = some last ∧ last.tokens.length = 3 ∧
      (∀ token ∈ scene.tokens, scene.check token = (scene.wait token (.ofParts 30 0)).1) ∧
      ∀ token ∈ last.tokens, last.isCancelled token = true := by
  intro history
  obtain ⟨scene, ran⟩ : ∃ scene, (Scene.create 3 5).run history = some scene := ⟨_, rfl⟩
  obtain ⟨last, ran_on⟩ : ∃ last, scene.run [.clone 1] = some last := by
    cases ran
    exact ⟨_, rfl⟩
  obtain ⟨_, answers, onward⟩ := tokens_agree_unless_abandoned ran
  obtain ⟨_, cancelled⟩ := onward [.clone 1] last ran_on
  refine ⟨scene, last, ran, ran_on, ?_, ?_, ?_⟩
  · cases ran
    cases ran_on
    rfl
  · intro token held
    obtain ⟨_, _, _, _, _, agree⟩ := answers token held (.ofParts 30 0)
    exact agree.mpr (by decide)
  · intro token held
    exact (cancelled (by decide) token held .zero).1

end TrafficMeter.Cancellation

/-
The order in which options are read.  Reading an argument is a chain of effects on the
options, so one more effect comes to the same whether it stands before the argument or
after it; and it does not matter whether a value that waits to be looked at has been
settled before.
-/
import FolderScript.Proofs.CommandLine.Effects

namespace FolderScript

namespace Effect

def onReading (effect : Effect) (reading : Reading) : Option Reading :=
  (effect.on reading.options).map fun options => { reading with options := options }

/-- A step of reading before which an effect comes to the same as after it. -/
def Commutes (effect : Effect) (step : Reading → Option Reading) : Prop :=
  ∀ reading, (effect.onReading reading).bind step = (step reading).bind effect.onReading

variable {effect : Effect} {step next : Reading → Option Reading}

theorem Commutes.bind (hstep : effect.Commutes step) (hnext : effect.Commutes next) :
    effect.Commutes fun reading => (step reading).bind next := by
  intro reading
  rw [← Option.bind_assoc, hstep, Option.bind_assoc, Option.bind_assoc]
  exact congrArg _ (funext hnext)

theorem commutes_none : effect.Commutes fun _ => none := fun reading => by
  cases effect.onReading reading <;> rfl

theorem commutes_some : effect.Commutes some := fun reading => by
  rw [Option.bind_some]
  cases effect.onReading reading <;> rfl

theorem bind_onReading (first second : Effect) (reading : Reading) :
    (first.onReading reading).bind second.onReading =
      ((first.on reading.options).bind second.on).map
        fun options => { reading with options := options } := by
  cases hfirst : first.on reading.options with
  | none => simp [onReading, hfirst]
  | some options => simp [onReading, hfirst]

theorem commutes_onReading (other : Effect) : effect.Commutes other.onReading := by
  intro reading
  rw [bind_onReading, bind_onReading, comm]

/-- Only the options are touched. -/
theorem eq_of_onReading {reading after : Reading} (h : effect.onReading reading = some after) :
    after.pending = reading.pending ∧ after.trailing = reading.trailing := by
  obtain ⟨options, -, rfl⟩ := Option.map_eq_some_iff.mp h
  exact ⟨rfl, rfl⟩

theorem commutes_awaiting (pending : Option (ValueOption × Option Bytes)) :
    effect.Commutes fun reading => some { reading with pending := pending } := by
  intro reading
  cases heffect : effect.on reading.options with
  | none => simp [onReading, heffect]
  | some options => simp [onReading, heffect]

theorem commutes_trailing :
    effect.Commutes fun reading => some { reading with trailing := true } := by
  intro reading
  cases heffect : effect.on reading.options with
  | none => simp [onReading, heffect]
  | some options => simp [onReading, heffect]

/-- A step that is chosen by what waits for a value commutes if each choice does. -/
theorem Commutes.choose
    (choice : Option (ValueOption × Option Bytes) → Bool → Reading → Option Reading)
    (h : ∀ pending trailing, effect.Commutes (choice pending trailing)) :
    effect.Commutes fun reading => choice reading.pending reading.trailing reading := by
  intro reading
  rw [← h reading.pending reading.trailing reading]
  refine Option.bind_congr fun after hafter => ?_
  obtain ⟨hpending, htrailing⟩ := eq_of_onReading hafter
  rw [hpending, htrailing]

end Effect

namespace Reading

/-- The reading with its value settled; none if that cannot be done. -/
def settled? (reading : Reading) : Option Reading := reading.settle.toOption

def settling (pending : Option (ValueOption × Option Bytes)) (reading : Reading) :
    Option Reading :=
  match pending with
  | none => some reading
  | some (_, none) => none
  | some (option, some value) =>
      (Effect.give option value).onReading { reading with pending := none }

theorem settled?_eq (reading : Reading) :
    reading.settled? = reading.settling reading.pending := by
  unfold settled? settle settling
  cases reading.pending with
  | none => rfl
  | some pending =>
      obtain ⟨option, value⟩ := pending
      cases value with
      | none => rfl
      | some value =>
          dsimp only [Effect.onReading, Effect.on]
          rw [toOption_bind]
          cases assign reading.options option value <;> rfl

theorem commutes_settled? (effect : Effect) : effect.Commutes settled? := by
  have hsettling : settled? = fun reading => settling reading.pending reading :=
    funext settled?_eq
  rw [hsettling]
  refine Effect.Commutes.choose (fun pending _ => settling pending) fun pending _ => ?_
  match pending with
  | none => exact Effect.commutes_some
  | some (_, none) => exact Effect.commutes_none
  | some (option, some value) =>
      exact (Effect.commutes_awaiting none).bind (Effect.commutes_onReading _)

/-- A reading in which no value waits to be looked at. -/
theorem pending_of_settled? {reading after : Reading} (h : reading.settled? = some after) :
    after.pending = none ∧ after.trailing = reading.trailing := by
  rw [settled?_eq] at h
  unfold settling at h
  split at h
  · rename_i hpending
    obtain rfl := Option.some.inj h
    exact ⟨hpending, rfl⟩
  · contradiction
  · obtain ⟨hpending, htrailing⟩ := Effect.eq_of_onReading h
    exact ⟨hpending, htrailing⟩

theorem settled?_of_pending {reading : Reading} (h : reading.pending = none) :
    reading.settled? = some reading := by
  rw [settled?_eq, h]
  rfl

theorem settled?_trailing (reading : Reading) :
    { reading with trailing := true }.settled? =
      reading.settled?.map fun settled => { settled with trailing := true } := by
  rw [settled?_eq, settled?_eq]
  match reading with
  | ⟨_, none, _⟩ => rfl
  | ⟨_, some (_, none), _⟩ => rfl
  | ⟨_, some (option, some value), _⟩ =>
      dsimp only [settling, Effect.onReading]
      rw [Option.map_map]
      rfl

/-- The reading with a value settled that has come; a value that is still to come stays
waited for. -/
def current? (reading : Reading) : Option Reading :=
  match reading.pending with
  | some (_, none) => some reading
  | _ => reading.settled?

theorem current?_of_pending {reading : Reading} (h : reading.pending = none) :
    reading.current? = some reading := by
  rw [current?, h]
  exact settled?_of_pending h

theorem current?_of_isWaiting {reading : Reading} (h : reading.isWaiting) :
    reading.current? = some reading := by
  match reading with
  | ⟨_, some (_, none), _⟩ => rfl
  | ⟨_, none, _⟩ => contradiction
  | ⟨_, some (_, some _), _⟩ => contradiction

theorem current?_of_not_isWaiting {reading : Reading} (h : reading.isWaiting = false) :
    reading.current? = reading.settled? := by
  match reading with
  | ⟨_, none, _⟩ => rfl
  | ⟨_, some (_, some _), _⟩ => rfl
  | ⟨_, some (_, none), _⟩ => contradiction

/-- Only a value that has come is settled. -/
theorem flags_of_current? {reading after : Reading} (h : reading.current? = some after) :
    after.isWaiting = reading.isWaiting ∧ after.trailing = reading.trailing := by
  cases hwaiting : reading.isWaiting with
  | true =>
      rw [current?_of_isWaiting hwaiting] at h
      obtain rfl := Option.some.inj h
      exact ⟨hwaiting, rfl⟩
  | false =>
      rw [current?_of_not_isWaiting hwaiting] at h
      obtain ⟨hpending, htrailing⟩ := pending_of_settled? h
      exact ⟨by rw [isWaiting, hpending], htrailing⟩

/-- A result that is the same whether or not a value that has come has been settled. -/
def IgnoresSettling {α : Type} (result : Reading → Option α) : Prop :=
  ∀ reading, result reading = reading.current?.bind result

theorem ignoresSettling_current? : IgnoresSettling current? := by
  intro reading
  symm
  cases hwaiting : reading.isWaiting with
  | true => rw [current?_of_isWaiting hwaiting, Option.bind_some, current?_of_isWaiting hwaiting]
  | false =>
      rw [current?_of_not_isWaiting hwaiting]
      cases hsettled : reading.settled? with
      | none => rfl
      | some settled => exact current?_of_pending (pending_of_settled? hsettled).1

theorem ignoresSettling_settled? : IgnoresSettling settled? := by
  intro reading
  symm
  cases hwaiting : reading.isWaiting with
  | true => rw [current?_of_isWaiting hwaiting, Option.bind_some]
  | false =>
      rw [current?_of_not_isWaiting hwaiting]
      cases hsettled : reading.settled? with
      | none => rfl
      | some settled => exact settled?_of_pending (pending_of_settled? hsettled).1

theorem commutes_current? (effect : Effect) : effect.Commutes current? := by
  refine Effect.Commutes.choose
    (fun pending _ reading =>
      match pending with
      | some (_, none) => some reading
      | _ => reading.settled?) fun pending _ => ?_
  match pending with
  | some (_, none) => exact Effect.commutes_some
  | some (_, some _) => exact commutes_settled? effect
  | none => exact commutes_settled? effect

theorem toOption_giveValue (reading : Reading) (option : ValueOption) (value : Bytes) :
    (reading.giveValue option value).toOption =
      reading.settled?.bind (Effect.give option value).onReading := by
  rw [giveValue, toOption_bind]
  refine congrArg _ (funext fun settled => ?_)
  rw [toOption_bind, Effect.onReading, Effect.on]
  cases assign settled.options option value <;> rfl

theorem toOption_awaitValue (reading : Reading) (option : ValueOption) :
    (reading.awaitValue option).toOption =
      reading.settled?.bind fun settled => some { settled with pending := some (option, none) } := by
  rw [awaitValue, toOption_bind]
  rfl

/-- What a flag does, once the value before it is settled; the others stop the reading. -/
def flagged (flag : Flag) (reading : Reading) : Option Reading :=
  match flag with
  | .verbose => Effect.count.onReading reading
  | _ => none

theorem toOption_raise (scope : Scope) (reading : Reading) (flag : Flag) (long : Bool) :
    (reading.raise scope flag long).toOption = reading.settled?.bind (flagged flag) := by
  rw [raise, toOption_bind]
  refine congrArg _ (funext fun settled => ?_)
  cases flag <;> rfl

theorem toOption_stray (scope : Scope) (reading : Reading) (argument : Bytes) :
    (reading.stray scope argument).toOption = none := by
  unfold stray
  split
  · split <;> rfl
  · rfl

end Reading

/-- What one piece of an argument asks for, before it is known what has been read. -/
inductive Act where
  /-- An option with its value. -/
  | give (option : ValueOption) (value : Bytes)
  /-- An option whose value is still to come. -/
  | await (option : ValueOption)
  | raise (flag : Flag)
  /-- The end of the options. -/
  | close
  /-- Something that looks like no option. -/
  | word (argument : Bytes)
  /-- Nothing that is known. -/
  | stop
  deriving DecidableEq, Repr

namespace Act

/-- What has been read after an act; none if that cannot be. -/
def on (act : Act) (reading : Reading) : Option Reading :=
  match act with
  | .give option value => reading.settled?.bind (Effect.give option value).onReading
  | .await option =>
      reading.settled?.bind fun settled => some { settled with pending := some (option, none) }
  | .raise flag => reading.settled?.bind (Reading.flagged flag)
  | .close => some { reading with trailing := true }
  | .word argument =>
      match reading.pending with
      | some (option, none) => some { reading with pending := some (option, some argument) }
      | _ => none
  | .stop => none

/-- The act of an argument after two dashes. -/
def ofLong (scope : Scope) (body : Bytes) : Act :=
  let name := body.takeWhile (· ≠ Reading.equalsSign)
  let value? := (body.dropWhile (· ≠ Reading.equalsSign)).tail?
  match ValueOption.ofLong? scope name, Flag.ofLong? name, value? with
  | some option, _, some value => .give option value
  | some option, _, none => .await option
  | none, some flag, none => .raise flag
  | none, _, _ => .stop

def ofLetters (scope : Scope) (broken : Bytes) : List Char → List Act
  | [] => if broken = [] then [] else [.stop]
  | letter :: rest =>
      match ValueOption.ofShort? scope letter, Flag.ofShort? letter with
      | some option, _ =>
          match Utf8.encode (String.ofList rest) ++ broken with
          | [] => [.await option]
          | byte :: value =>
              [.give option (if byte = Reading.equalsSign then value else byte :: value)]
      | none, some flag => .raise flag :: ofLetters scope broken rest
      | none, none => [.stop]

def ofArgument (scope : Scope) (argument : Bytes) : List Act :=
  match argument with
  | first :: second :: rest =>
      if first = Reading.dash ∧ second = Reading.dash then
        if rest = [] then [.close] else [ofLong scope rest]
      else if first = Reading.dash then
        ofLetters scope (Reading.splitText (second :: rest)).2
          (Reading.splitText (second :: rest)).1
      else [.word argument]
  | _ => [.word argument]

def onAll (acts : List Act) (reading : Reading) : Option Reading :=
  acts.foldlM (fun reading act => act.on reading) reading

@[simp] theorem onAll_cons (act : Act) (acts : List Act) (reading : Reading) :
    onAll (act :: acts) reading = (act.on reading).bind (onAll acts) := by
  rw [onAll, List.foldlM_cons]
  rfl

theorem onAll_singleton (act : Act) (reading : Reading) : onAll [act] reading = act.on reading := by
  rw [onAll_cons]
  exact Option.bind_fun_some _

theorem toOption_plain (reading : Reading) (scope : Scope) (argument : Bytes) :
    (reading.plain scope argument).toOption = (word argument).on reading := by
  unfold Reading.plain on
  match reading.pending with
  | some (option, none) => rfl
  | some (option, some value) => exact Reading.toOption_stray scope reading argument
  | none => exact Reading.toOption_stray scope reading argument

theorem toOption_readLong (scope : Scope) (reading : Reading) (body : Bytes) :
    (reading.readLong scope body).toOption = (ofLong scope body).on reading := by
  unfold Reading.readLong ofLong
  dsimp only
  match ValueOption.ofLong? scope (body.takeWhile (· ≠ Reading.equalsSign)),
    Flag.ofLong? (body.takeWhile (· ≠ Reading.equalsSign)),
    (body.dropWhile (· ≠ Reading.equalsSign)).tail? with
  | some option, _, some value => exact Reading.toOption_giveValue reading option value
  | some option, _, none => exact Reading.toOption_awaitValue reading option
  | none, some flag, some value => rfl
  | none, some flag, none => exact Reading.toOption_raise scope reading flag true
  | none, none, _ => rfl

theorem toOption_readLetters (scope : Scope) (broken : Bytes) (reading : Reading)
    (letters : List Char) :
    (Reading.readLetters scope broken reading letters).toOption =
      onAll (ofLetters scope broken letters) reading := by
  induction letters generalizing reading with
  | nil =>
      unfold Reading.readLetters ofLetters
      split <;> rfl
  | cons letter rest ih =>
      unfold Reading.readLetters ofLetters
      match ValueOption.ofShort? scope letter, Flag.ofShort? letter with
      | some option, _ =>
          dsimp only
          match Utf8.encode (String.ofList rest) ++ broken with
          | [] =>
              rw [Reading.toOption_awaitValue, onAll_singleton]
              rfl
          | byte :: value =>
              rw [Reading.toOption_giveValue, onAll_singleton]
              rfl
      | none, some flag =>
          dsimp only
          rw [toOption_bind, Reading.toOption_raise, onAll_cons]
          exact congrArg _ (funext ih)
      | none, none => rfl

/-- Among the options an argument comes to its acts; after their end to nothing. -/
theorem toOption_readArgument (scope : Scope) (reading : Reading) (argument : Bytes) :
    (reading.readArgument scope argument).toOption =
      if reading.trailing then none else onAll (ofArgument scope argument) reading := by
  unfold Reading.readArgument
  cases reading.trailing with
  | true => exact Reading.toOption_stray scope reading argument
  | false =>
      simp only [Bool.false_eq_true, if_false]
      match argument with
      | [] | [_] =>
          rw [toOption_plain]
          exact (onAll_singleton _ _).symm
      | first :: second :: rest =>
          simp only [ofArgument]
          by_cases hdashes : first = Reading.dash ∧ second = Reading.dash
          · rw [if_pos hdashes, if_pos hdashes]
            by_cases hrest : rest = []
            · rw [if_pos hrest, if_pos hrest]
              rfl
            · rw [if_neg hrest, if_neg hrest, toOption_readLong, onAll_singleton]
          · rw [if_neg hdashes, if_neg hdashes]
            by_cases hdash : first = Reading.dash
            · rw [if_pos hdash, if_pos hdash]
              exact toOption_readLetters scope _ reading _
            · rw [if_neg hdash, if_neg hdash, toOption_plain, onAll_singleton]

/-- An effect before an act comes to the same as after it. -/
theorem commutes_on (effect : Effect) (act : Act) : effect.Commutes act.on := by
  cases act with
  | give option value =>
      exact (Reading.commutes_settled? effect).bind (Effect.commutes_onReading _)
  | await option =>
      exact (Reading.commutes_settled? effect).bind (Effect.commutes_awaiting _)
  | raise flag =>
      refine (Reading.commutes_settled? effect).bind ?_
      cases flag with
      | verbose => exact Effect.commutes_onReading .count
      | help | version => exact Effect.commutes_none
  | close => exact Effect.commutes_trailing
  | word argument =>
      refine Effect.Commutes.choose
        (fun pending _ reading =>
          match pending with
          | some (option, none) => some { reading with pending := some (option, some argument) }
          | _ => none) fun pending _ => ?_
      match pending with
      | some (option, none) => exact Effect.commutes_awaiting _
      | some (_, some _) => exact Effect.commutes_none
      | none => exact Effect.commutes_none
  | stop => exact Effect.commutes_none

theorem commutes_onAll (effect : Effect) (acts : List Act) : effect.Commutes (onAll acts) := by
  induction acts with
  | nil => exact Effect.commutes_some
  | cons act acts ih =>
      have hcons : onAll (act :: acts) = fun reading => (act.on reading).bind (onAll acts) :=
        funext (onAll_cons act acts)
      rw [hcons]
      exact (commutes_on effect act).bind ih

/-- A word that no option waits for cannot be read. -/
theorem word_on {reading : Reading} (h : reading.isWaiting = false) {argument : Bytes} :
    (word argument).on reading = none := by
  match reading with
  | ⟨_, none, _⟩ => rfl
  | ⟨_, some (_, some _), _⟩ => rfl
  | ⟨_, some (_, none), _⟩ => contradiction

/-- Before an act it does not matter whether a value that has come is settled. -/
theorem ignoresSettling_on (act : Act) {α : Type} {result : Reading → Option α}
    (hresult : Reading.IgnoresSettling result) :
    Reading.IgnoresSettling fun reading => (act.on reading).bind result := by
  intro reading
  cases hwaiting : reading.isWaiting with
  | true => rw [Reading.current?_of_isWaiting hwaiting, Option.bind_some]
  | false =>
      rw [Reading.current?_of_not_isWaiting hwaiting]
      have hchain (next : Reading → Option Reading) :
          (reading.settled?.bind next).bind result =
            reading.settled?.bind fun settled => (settled.settled?.bind next).bind result := by
        cases hsettled : reading.settled? with
        | none => rfl
        | some settled =>
            have hpending := (Reading.pending_of_settled? hsettled).1
            simp only [Option.bind_some, Reading.settled?_of_pending hpending]
      cases act with
      | give option value => exact hchain _
      | await option => exact hchain _
      | raise flag => exact hchain _
      | close =>
          -- only here something is done to a value that is not settled first
          have hclosed : { reading with trailing := true }.isWaiting = false := hwaiting
          simp only [on, Option.bind_some]
          rw [hresult, Reading.current?_of_not_isWaiting hclosed, Reading.settled?_trailing,
            Option.bind_map]
          rfl
      | word argument =>
          dsimp only
          rw [word_on hwaiting]
          cases hsettled : reading.settled? with
          | none => rfl
          | some settled =>
              have hpending := (Reading.pending_of_settled? hsettled).1
              rw [Option.bind_some, word_on (by rw [Reading.isWaiting, hpending])]
      | stop => cases reading.settled? <;> rfl

theorem ignoresSettling_onAll (acts : List Act) {α : Type} {result : Reading → Option α}
    (hresult : Reading.IgnoresSettling result) :
    Reading.IgnoresSettling fun reading => (onAll acts reading).bind result := by
  induction acts with
  | nil => exact hresult
  | cons act acts ih =>
      have hcons : (fun reading => (onAll (act :: acts) reading).bind result) =
          fun reading => (act.on reading).bind fun next => (onAll acts next).bind result :=
        funext fun reading => by rw [onAll_cons, Option.bind_assoc]
      rw [hcons]
      exact ignoresSettling_on act ih

end Act

namespace Reading

/-- What has been read after an argument; none if it stops the reading. -/
def after? (scope : Scope) (argument : Bytes) (reading : Reading) : Option Reading :=
  (reading.readArgument scope argument).toOption

theorem after?_eq (scope : Scope) (argument : Bytes) (reading : Reading) :
    reading.after? scope argument =
      if reading.trailing then none else Act.onAll (Act.ofArgument scope argument) reading :=
  Act.toOption_readArgument scope reading argument

/-- An effect before an argument comes to the same as after it. -/
theorem commutes_after? (effect : Effect) (scope : Scope) (argument : Bytes) :
    effect.Commutes (after? scope argument) := by
  rw [funext (after?_eq scope argument)]
  refine Effect.Commutes.choose
    (fun _ trailing reading =>
      if trailing then none else Act.onAll (Act.ofArgument scope argument) reading)
    fun _ trailing => ?_
  cases trailing with
  | true => exact Effect.commutes_none
  | false => exact Act.commutes_onAll effect _

theorem ignoresSettling_after? (scope : Scope) (argument : Bytes) {α : Type}
    {result : Reading → Option α} (hresult : IgnoresSettling result) :
    IgnoresSettling fun reading => (reading.after? scope argument).bind result := by
  intro reading
  dsimp only
  rw [after?_eq]
  cases htrailing : reading.trailing with
  | true =>
      symm
      rw [if_pos rfl, Option.bind_none, Option.bind_eq_none_iff]
      intro current hcurrent
      rw [after?_eq, if_pos ((flags_of_current? hcurrent).2.trans htrailing), Option.bind_none]
  | false =>
      refine (Act.ignoresSettling_onAll _ hresult reading).trans ?_
      refine Option.bind_congr fun current hcurrent => ?_
      have hopen : ¬current.trailing := by
        rw [(flags_of_current? hcurrent).2, htrailing]
        exact Bool.false_ne_true
      rw [after?_eq, if_neg hopen]

end Reading

end FolderScript

import AttAssembly.Machine.Session
import AttAssembly.Proofs.Machine.State

/-!
A machine worked by hand. Requests may fail between others and fail again, and no request ever does
half of what it is asked: while nobody writes the stack pointer by its name or brings a saved state
back, the pointer and the stack stay in step. Values that are pushed come back in reverse order, and
with the last of them the machine is what it was.
-/

namespace AttAssembly

/-- The names of the registers, in the order in which they are shown. -/
def registerNames : List Text := ["EAX", "EBX", "ECX", "EDX", "ESI", "EDI", "EBP", "ESP"]

theorem registerNames_eq : GeneralRegister.all.map (·.name) = registerNames := rfl

theorem GeneralRegister.ofName_eq_none_iff (name : Text) :
    ofName? name = none ↔ name ∉ registerNames := by
  rw [ofName?, List.find?_eq_none, ← registerNames_eq]
  simp

theorem GeneralRegister.name_of_ofName {name : Text} {register : GeneralRegister}
    (found : ofName? name = some register) : register.name = name := by
  simpa using List.find?_some found

/-- Neither brings a saved state back nor writes the stack pointer by its name. -/
def Request.isOrdinary : Request → Bool
  | .write name _ => name ≠ "ESP".toList
  | .restore _ => false
  | _ => true

/-- The address at which a request bases the stack, when it does. -/
def Request.base? : Request → Option Int
  | .rebase address => some address
  | _ => none

/-- The address of the last request that based the stack. -/
def lastRebase (stackBase : Int) (requests : List Request) : Int :=
  (requests.filterMap Request.base?).getLast?.getD stackBase

theorem lastRebase_concat (stackBase : Int) (requests : List Request) (request : Request) :
    lastRebase stackBase (requests ++ [request]) =
      request.base?.getD (lastRebase stackBase requests) := by
  cases based : request.base? with
  | none => simp [lastRebase, based]
  | some address => simp [lastRebase, based]

namespace Session

variable (session : Session)

/-- The state after some requests, answered or not. -/
def afterAll (requests : List Request) : Session := requests.foldl after session

theorem afterAll_append (first second : List Request) :
    session.afterAll (first ++ second) = (session.afterAll first).afterAll second :=
  List.foldl_append

theorem serve_append (first second : List Request) :
    session.serve (first ++ second) =
      session.serve first ++ (session.afterAll first).serve second := by
  induction first generalizing session with
  | nil => rfl
  | cons request rest ih => exact congrArg (_ :: ·) (ih (session.after request))

section Refusals

/-- The requests that a state cannot answer, each with its error. -/
inductive Refuses : Request → RequestError → Prop
  | read (name : Text) (unknown : name ∉ registerNames) :
      Refuses (.read name) (.noRegisterToRead name)
  | write (name : Text) (value : Int) (unknown : name ∉ registerNames) :
      Refuses (.write name value) (.noRegisterToWrite name)
  | pop (empty : session.machine.stack = []) : Refuses .pop .emptyStack
  | top (empty : session.machine.stack = []) : Refuses .top .noTop
  | restore (index : Int) (missing : itemAt? session.saved index = none) :
      Refuses (.restore index) .noSnapshot

variable {session} {request : Request} {error : RequestError}

theorem Refuses.unanswered (refused : session.Refuses request error) :
    session.answer request = (.error error, session) := by
  cases refused with
  | read name unknown =>
      simp [answer, (GeneralRegister.ofName_eq_none_iff name).mpr unknown]
  | write name value unknown =>
      simp [answer, (GeneralRegister.ofName_eq_none_iff name).mpr unknown]
  | pop empty => simp [answer, (session.machine.pop_none_iff).mpr empty]
  | top empty => simp [answer, empty]
  | restore index missing => simp [answer, missing]

theorem refuses_of_error (failed : (session.answer request).1 = .error error) :
    session.Refuses request error := by
  cases request with
  | read name =>
      rw [answer] at failed
      split at failed <;> cases failed
      next unknown => exact .read name ((GeneralRegister.ofName_eq_none_iff name).mp unknown)
  | write name value =>
      rw [answer] at failed
      split at failed <;> cases failed
      next unknown => exact .write name value ((GeneralRegister.ofName_eq_none_iff name).mp unknown)
  | pop =>
      rw [answer] at failed
      split at failed <;> cases failed
      next nothing => exact .pop ((session.machine.pop_none_iff).mp nothing)
  | top =>
      rw [answer] at failed
      split at failed <;> cases failed
      next empty => exact .top empty
  | restore index =>
      rw [answer] at failed
      split at failed <;> cases failed
      next missing => exact .restore index missing
  | _ => cases failed

theorem refuses_iff : (session.answer request).1 = .error error ↔ session.Refuses request error := by
  constructor
  · exact refuses_of_error
  · intro refused
    rw [refused.unanswered]

end Refusals

section Depth

/-- The address up to which the values of the stack reach. -/
def baseAddress : Int := session.machine.get .esp + 4 * session.machine.stack.length

theorem baseAddress_initial (stackBase : Int) :
    (initial stackBase).baseAddress = stackBase := by
  simp [baseAddress, initial, Machine.get_initial]

/-- No ordinary request moves the pointer without the stack, and only one of them moves both away. -/
theorem after_baseAddress (request : Request) (ordinary : request.isOrdinary = true) :
    (session.after request).baseAddress = request.base?.getD session.baseAddress := by
  cases request with
  | read name =>
      rw [after, answer]
      split <;> rfl
  | write name value =>
      rw [after, answer]
      split
      · next register found =>
          -- Only one name is that of the stack pointer.
          have other : GeneralRegister.esp ≠ register := by
            rintro rfl
            rw [Request.isOrdinary, ← GeneralRegister.name_of_ofName found] at ordinary
            exact absurd ordinary (by decide)
          simp [baseAddress, Request.base?, Machine.get_set, other]
      · rfl
  | rebase address => simp [after, answer, baseAddress, Request.base?, Machine.get_rebase]
  | setFlags result => simp [after, answer, baseAddress, Request.base?]
  | push value =>
      simp only [after, answer, baseAddress, Request.base?, Machine.get_push, Machine.stack_push,
        Machine.wordSize, List.length_cons, Option.getD_none, ↓reduceIte]
      omega
  | pop =>
      rw [after, answer]
      split
      · next value shorter popped =>
          obtain ⟨stack, _, _, registers⟩ := session.machine.pop_some value shorter popped
          have pointer := registers .esp
          simp only [Machine.wordSize, ↓reduceIte] at pointer
          simp only [baseAddress, Request.base?, pointer, stack, List.length_cons, Option.getD_none]
          omega
      · rfl
  | top =>
      rw [after, answer]
      split <;> rfl
  | stack => rfl
  | snapshot => rfl
  | restore index => cases ordinary
  | dump => rfl

theorem afterAll_baseAddress (stackBase : Int) (requests : List Request)
    (ordinary : ∀ request ∈ requests, request.isOrdinary = true) :
    ((initial stackBase).afterAll requests).baseAddress = lastRebase stackBase requests := by
  induction requests using List.reverseRecOn with
  | nil => exact baseAddress_initial stackBase
  | append_singleton requests request ih =>
      have earlier := ih fun other member => ordinary other (List.mem_append_left _ member)
      have last := ordinary request (List.mem_append_right _ List.mem_cons_self)
      rw [afterAll_append, lastRebase_concat, ← earlier]
      exact after_baseAddress _ request last

end Depth

section RoundTrips

/-- Pushes some values and pops as many. -/
def roundTrip (values : List Int) : List Request :=
  values.map .push ++ List.replicate values.length .pop

theorem roundTrip_cons (value : Int) (values : List Int) :
    roundTrip (value :: values) = [.push value] ++ roundTrip values ++ [.pop] := by
  simp [roundTrip, List.replicate_succ']

theorem pop_after_push (value : Int) :
    (session.after (.push value)).answer .pop = (.ok (.value value), session) := by
  simp [after, answer, Machine.pop_push]

theorem afterAll_roundTrip (values : List Int) :
    session.afterAll (roundTrip values) = session := by
  induction values generalizing session with
  | nil => rfl
  | cons value values ih =>
      rw [roundTrip_cons, afterAll_append, afterAll_append, ih]
      exact congrArg Prod.snd (session.pop_after_push value)

/-- The replies of a session without the states between them. -/
def replies (requests : List Request) : List (Except RequestError Reply) :=
  (session.serve requests).map Prod.fst

theorem replies_append (first second : List Request) :
    session.replies (first ++ second) =
      session.replies first ++ (session.afterAll first).replies second := by
  rw [replies, serve_append, List.map_append]
  rfl

theorem replies_roundTrip (values : List Int) :
    session.replies (roundTrip values) =
      List.replicate values.length (.ok .nothing) ++
        values.reverse.map fun value => .ok (.value value) := by
  induction values generalizing session with
  | nil => rfl
  | cons value values ih =>
      have pushed : session.replies [.push value] = [.ok .nothing] := rfl
      have popped : (session.after (.push value)).replies [.pop] = [.ok (.value value)] :=
        congrArg ([·]) (congrArg Prod.fst (session.pop_after_push value))
      have between : (session.afterAll [.push value]).afterAll (roundTrip values) =
        session.after (.push value) := afterAll_roundTrip _ values
      rw [roundTrip_cons, replies_append, replies_append, afterAll_append, between, pushed, popped, ih]
      simp [List.replicate_succ]

end RoundTrips

theorem read_answered_iff (name : Text) :
    (∃ value, (session.answer (.read name)).1 = .ok (.value value)) ↔ name ∈ registerNames := by
  constructor
  · rintro ⟨value, answered⟩
    by_contra unknown
    rw [(Refuses.read name unknown).unanswered] at answered
    cases answered
  · intro known
    cases found : GeneralRegister.ofName? name with
    | none => exact absurd known ((GeneralRegister.ofName_eq_none_iff name).mp found)
    | some register => exact ⟨session.machine.get register, by simp [answer, found]⟩

end Session

def BeginsWithName (name line : Text) : Prop := ∃ shown : Text, line = name ++ "  " ++ shown

/-- The first eight lines of a dump are those of the registers. -/
theorem registerLines_names (machine : Machine) :
    List.Forall₂ BeginsWithName registerNames ((registerLines machine).take 8) := by
  have front : (registerLines machine).take 8 = GeneralRegister.all.map fun register =>
      registerLine register (machine.get register) := rfl
  rw [front, ← registerNames_eq, List.forall₂_map_left_iff, List.forall₂_map_right_iff]
  refine List.forall₂_same.mpr fun register _ => ?_
  simp only [BeginsWithName, registerLine, List.append_assoc]
  exact ⟨_, rfl⟩

/-- After any ordinary requests, some of which may have failed: the stack reaches up to where it was
    last based, the registers are the eight that there are, a request that is refused changes nothing,
    and what is pushed is popped again in reverse order, down to the state before. -/
theorem stack_machine_faithful (stackBase : Int) (requests : List Request)
    (ordinary : ∀ request ∈ requests, request.isOrdinary = true) :
    let session := (Session.initial stackBase).afterAll requests
    session.machine.get .esp + 4 * session.machine.stack.length = lastRebase stackBase requests ∧
      List.Forall₂ BeginsWithName registerNames ((registerLines session.machine).take 8) ∧
      (∀ name, (∃ value, (session.answer (.read name)).1 = .ok (.value value)) ↔
        name ∈ registerNames) ∧
      (∀ request error, (session.answer request).1 = .error error ↔
        session.Refuses request error) ∧
      (∀ request error, (session.answer request).1 = .error error →
        session.after request = session) ∧
      ∀ values : List Int,
        session.replies (Session.roundTrip values) =
            List.replicate values.length (.ok .nothing) ++
              values.reverse.map (fun value => .ok (.value value)) ∧
          session.afterAll (Session.roundTrip values) = session := by
  intro session
  refine ⟨Session.afterAll_baseAddress stackBase requests ordinary,
    registerLines_names session.machine, session.read_answered_iff,
    fun request error => Session.refuses_iff, ?_,
    fun values => ⟨session.replies_roundTrip values, session.afterAll_roundTrip values⟩⟩
  intro request error failed
  exact congrArg Prod.snd (Session.refuses_of_error failed).unanswered

/-- Requests that fail before and after the stack is based anew, with a value left on it. -/
theorem stack_machine_faithful_failing :
    let requests : List Request := [.pop, .push 7, .top, .rebase 8192, .top, .write "EAX" 5,
      .write "eax" 6, .push (-3), .setFlags (-3), .push (2 ^ 40), .pop, .read "AL"]
    let session := (Session.initial 4096).afterAll requests
    (∀ request ∈ requests, request.isOrdinary = true) ∧
      session.machine.get .esp + 4 * session.machine.stack.length = 8192 ∧
      session.machine.stack = [-3] ∧ session.after (.read "SP") = session ∧
      session.replies (Session.roundTrip [1, 2]) =
        [.ok .nothing, .ok .nothing, .ok (.value 2), .ok (.value 1)] := by
  intro requests session
  have ordinary : ∀ request ∈ requests, request.isOrdinary = true := by decide
  obtain ⟨depth, _, _, _, unchanged, trips⟩ := stack_machine_faithful 4096 requests ordinary
  exact ⟨ordinary, depth, rfl, unchanged (.read "SP") _ rfl, (trips [1, 2]).1⟩

end AttAssembly

import BslLint.Proofs.Broadcast.Run
import BslLint.Proofs.Sharing.Answer
import Mathlib.Data.List.Basic

/-! Runs of a session that any number of callers share, while configurations are published, subscribers come
and go, and files change that the calls do not look at. -/

set_option autoImplicit false

namespace BslLint.Sharing

inductive Request where
  /-- The compatibility mode for a snapshot that the caller holds. -/
  | mode (snapshot : Snapshot)
  | walk (path : Path) (options : TreeOptions)

abbrev Request.Answer : Request → Type
  | .mode _ => Option CompatibilityMode
  | .walk _ _ => Except SessionError Report

/-- A call under way, with how many turns it has had and the editions that it has taken. -/
structure Call where
  request : Request
  turns : Nat
  taken : List Edition
  rest : Thread request.Answer

structure World (State : Type) where
  tree : FileTree
  session : Session State
  publishing : Bool
  subscribers : List (Option Subscriber)
  calls : List Call

variable {State : Type}

namespace World

def opened (tree : FileTree) (session : Session State) : World State :=
  ⟨tree, session, false, [], []⟩

/-- The part of a world in which publications take place. -/
def broadcast (world : World State) : Broadcast.World :=
  ⟨world.session.store, world.publishing, world.subscribers⟩

def withBroadcast (world : World State) (next : Broadcast.World) : World State :=
  { world with
    session := { world.session with store := next.store }
    publishing := next.publishing
    subscribers := next.subscribers }

end World

inductive Event where
  | broadcast (event : Broadcast.Event)
  | asked (request : Request)
  | turned (id : Nat)
  | edited

def Event.broadcast? : Event → Option Broadcast.Event
  | .broadcast event => some event
  | _ => none

def broadcastEvents (events : List Event) : List Broadcast.Event :=
  events.filterMap Event.broadcast?

/-- The editions that were put in force, in that order. -/
def published (events : List Event) : List Edition :=
  Broadcast.published (broadcastEvents events)

theorem broadcastEvents_concat (events : List Event) (event : Event) :
    broadcastEvents (events ++ [event]) = broadcastEvents events ++ event.broadcast?.toList := by
  rw [broadcastEvents, List.filterMap_append]
  cases event <;> rfl

def Call.turn (tree : FileTree) (session : Session State) (call : Call) : Option (Call × Session State) :=
  (call.rest.turn tree session).map fun (took, rest, after) =>
    ({ call with turns := call.turns + 1, taken := call.taken ++ took, rest }, after)

theorem forall_mem_set {Item : Type} {holds : Item → Prop} {items : List Item} {item : Item}
    (all : ∀ other ∈ items, holds other) (new : holds item) (id : Nat) :
    ∀ other ∈ items.set id item, holds other := by
  intro other mem
  rcases List.mem_or_eq_of_mem_set mem with old | rfl
  · exact all other old
  · exact new

variable [Rule State]

def Request.thread (session : Session State) : (request : Request) → Thread request.Answer
  | .mode snapshot => .modeFor session.root snapshot
  | .walk path options => .analyzeTree session.root session.registry path options

inductive Step : World State → Event → World State → Prop where
  | broadcast {world : World State} {event : Broadcast.Event} {next : Broadcast.World} :
      Broadcast.Step world.broadcast event next → Step world (.broadcast event) (world.withBroadcast next)
  | ask {world : World State} (request : Request) :
      Step world (.asked request)
        { world with calls := world.calls ++ [⟨request, 0, [], request.thread world.session⟩] }
  | turn {world : World State} {id : Nat} {call next : Call} {after : Session State} :
      world.calls[id]? = some call → call.turn world.tree world.session = some (next, after) →
      Step world (.turned id) { world with session := after, calls := world.calls.set id next }
  | edit {world : World State} {other : FileTree} : world.tree.Alike world.session.root other →
      Step world .edited { world with tree := other }

abbrev Run : World State → List Event → World State → Prop :=
  Execution Step

section

variable (tree : FileTree) (session : Session State)

/-- What a request may be answered with, by the editions that have been taken. -/
def Request.Fits : (request : Request) → List Edition → request.Answer → Prop
  | .mode snapshot, taken, answer =>
    taken = [] ∧ answer = Metadata.mode? tree session.root snapshot.configurationRoot
  | .walk path options, taken, answer => Thread.WalksTree tree session path options taken answer

def Request.limit : Request → Nat
  | .mode _ => 3
  | .walk path options => Thread.walkTurns tree path options

theorem thread_meets (request : Request) :
    Thread.Meets tree session.root (request.Fits tree session) (request.limit tree) [] (request.thread session) := by
  cases request with
  | mode snapshot => exact Thread.modeFor_meets tree session.root [] snapshot
  | walk path options => exact Thread.analyzeTree_meets tree session path options

def Call.Meets (call : Call) : Prop :=
  ∃ left, call.turns + left = call.request.limit tree ∧
    Thread.Meets tree session.root (call.request.Fits tree session) left call.taken call.rest

/-- What callers rely on. The session has stayed what it was but for its store and the stored detection, which
holds. -/
structure Sound (world : World State) : Prop where
  root : world.session.root = session.root
  registry : world.session.registry = session.registry
  files : tree.Alike session.root world.tree
  detection : world.session.detection.Holds tree session.root
  calls : ∀ call ∈ world.calls, call.Meets tree session

end

variable {tree : FileTree} {session : Session State} {world next : World State} {event : Event}

theorem Call.Meets.turn {call later : Call} {current after : Session State} {other : FileTree}
    (meets : call.Meets tree session) (files : tree.Alike session.root other)
    (detection : current.detection.Holds tree session.root)
    (turned : call.turn other current = some (later, after)) :
    later.Meets tree session ∧ after.detection.Holds tree session.root ∧
      after.root = current.root ∧ after.registry = current.registry := by
  obtain ⟨left, limit, meets⟩ := meets
  obtain ⟨⟨took, rest, _⟩, step, same⟩ := Option.map_eq_some_iff.mp turned
  cases same
  obtain ⟨fewer, rfl, rests, holds⟩ := meets.turn files detection step
  obtain ⟨⟨detected, rfl⟩, _⟩ := Thread.turn_some step
  refine ⟨⟨fewer, ?_, rests⟩, holds, rfl, rfl⟩
  rw [← limit]
  exact Nat.add_right_comm _ _ _

theorem Sound.step (sound : Sound tree session world) (stepped : Step world event next) :
    Sound tree session next := by
  obtain ⟨root, registry, files, detection, calls⟩ := sound
  cases stepped with
  | broadcast => exact ⟨root, registry, files, detection, calls⟩
  | ask request =>
    have meets := thread_meets tree session request
    -- The new call finds the same root and the same rules as one at the start.
    have same : request.thread world.session = request.thread session := by
      cases request with
      | mode => exact congrArg (Thread.modeFor · _) root
      | walk => exact congrArg₂ (Thread.analyzeTree · · _ _) root registry
    refine ⟨root, registry, files, detection, List.forall_mem_append.mpr ⟨calls, ?_⟩⟩
    exact List.forall_mem_singleton.mpr ⟨request.limit tree, Nat.zero_add _, same ▸ meets⟩
  | @turn id _ _ _ there turned =>
    -- Only one call changes, and the detection that it may store holds.
    have before := calls _ (List.mem_of_getElem? there)
    obtain ⟨meets, holds, sameRoot, sameRegistry⟩ := before.turn files detection turned
    exact ⟨sameRoot.trans root, sameRegistry.trans registry, files, holds, forall_mem_set calls meets id⟩
  | edit alike => exact ⟨root, registry, files.trans (root ▸ alike), detection, calls⟩

structure Call.InOrder (initial : Snapshot) (past : List Broadcast.Event) (current : Edition) (call : Call) :
    Prop where
  issued : ∀ edition ∈ call.taken, edition ∈ ⟨0, initial⟩ :: Broadcast.published past
  ascending : call.taken.Pairwise fun earlier later => earlier.number ≤ later.number
  bounded : ∀ edition ∈ call.taken, edition.number ≤ current.number

structure Ordered (initial : Snapshot) (past : List Event) (world : World State) : Prop where
  settled : Broadcast.Settled initial (broadcastEvents past) world.broadcast
  calls : ∀ call ∈ world.calls, call.InOrder initial (broadcastEvents past) world.session.store.current

variable {initial : Snapshot} {past : List Event}

theorem Call.InOrder.broadcast {call : Call} {past : List Broadcast.Event} {world next : Broadcast.World}
    {event : Broadcast.Event} (inOrder : call.InOrder initial past world.store.current)
    (stepped : Broadcast.Step world event next) : call.InOrder initial (past ++ [event]) next.store.current := by
  obtain ⟨issued, ascending, bounded⟩ := inOrder
  refine ⟨?_, ascending, ?_⟩
  · intro edition mem
    rw [Broadcast.published_concat, ← List.cons_append]
    exact List.mem_append_left _ (issued edition mem)
  · intro edition mem
    exact Nat.le_trans (bounded edition mem) stepped.number_le

omit [Rule State] in
theorem Call.InOrder.turn {call later : Call} {past : List Broadcast.Event} {world : Broadcast.World}
    {session after : Session State} (inOrder : call.InOrder initial past session.store.current)
    (settled : Broadcast.Settled initial past world) (same : world.store = session.store)
    (turned : call.turn tree session = some (later, after)) :
    later.InOrder initial past session.store.current ∧ after.store = session.store := by
  obtain ⟨⟨took, rest, _⟩, step, equal⟩ := Option.map_eq_some_iff.mp turned
  cases equal
  obtain ⟨⟨detection, rfl⟩, takes⟩ := Thread.turn_some step
  refine ⟨?_, rfl⟩
  obtain ⟨issued, ascending, bounded⟩ := inOrder
  rcases takes with rfl | rfl
  · exact ⟨by simpa using issued, by simpa using ascending, by simpa using bounded⟩
  · -- What is taken is in force, so it has been issued and nothing taken before is newer.
    have current : session.store.current ∈ ⟨0, initial⟩ :: Broadcast.published past :=
      same ▸ List.mem_of_getLast? settled.current
    refine ⟨?_, ?_, ?_⟩
    · exact List.forall_mem_append.mpr ⟨issued, List.forall_mem_singleton.mpr current⟩
    · refine List.pairwise_append.mpr ⟨ascending, List.pairwise_singleton _ _, ?_⟩
      intro earlier mem
      exact List.forall_mem_singleton.mpr (bounded earlier mem)
    · exact List.forall_mem_append.mpr ⟨bounded, List.forall_mem_singleton.mpr (Nat.le_refl _)⟩

theorem Ordered.step (ordered : Ordered initial past world) (stepped : Step world event next) :
    Ordered initial (past ++ [event]) next := by
  obtain ⟨settled, calls⟩ := ordered
  have events := broadcastEvents_concat past event
  cases stepped with
  | broadcast stepped =>
    refine ⟨?_, ?_⟩
    · rw [events]
      exact settled.step stepped
    · rw [events]
      exact fun call mem => (calls call mem).broadcast stepped
  | ask request =>
    have same : broadcastEvents (past ++ [.asked request]) = broadcastEvents past :=
      events.trans (List.append_nil _)
    refine ⟨by rw [same]; exact settled, ?_⟩
    rw [same]
    exact List.forall_mem_append.mpr ⟨calls, List.forall_mem_singleton.mpr ⟨nofun, .nil, nofun⟩⟩
  | @turn id call later after there turned =>
    have same : broadcastEvents (past ++ [.turned id]) = broadcastEvents past :=
      events.trans (List.append_nil _)
    have before := calls _ (List.mem_of_getElem? there)
    obtain ⟨inOrder, store⟩ := before.turn settled rfl turned
    refine ⟨?_, ?_⟩
    · rw [same]
      simp only [World.broadcast, store]
      exact settled
    · rw [same, store]
      exact forall_mem_set calls inOrder id
  | edit =>
    have same : broadcastEvents (past ++ [.edited]) = broadcastEvents past := events.trans (List.append_nil _)
    exact ⟨by rw [same]; exact settled, by rw [same]; exact calls⟩

section

variable {start : World State} {events : List Event} {id : Nat}

theorem Run.sound (run : Run start events world) (sound : Sound tree session start) : Sound tree session world :=
  Execution.induct (fun _ world => Sound tree session world) Sound.step run [] sound

theorem Run.ordered (run : Run start events world) (ordered : Ordered initial [] start) :
    Ordered initial events world :=
  Execution.induct (Ordered initial) Ordered.step run [] ordered

theorem sound_opened (under : session.under tree session.snapshot = session) :
    Sound tree session (.opened tree session) where
  root := rfl
  registry := rfl
  files := tree.alike_refl session.root
  detection := under ▸ rfl
  calls := nofun

omit [Rule State] in
theorem ordered_opened (under : session.under tree session.snapshot = session) :
    Ordered session.snapshot [] (.opened tree session) where
  settled := by
    have store : session.store = .opened session.snapshot := congrArg Session.store under.symm
    simp only [World.opened, World.broadcast, store]
    exact Broadcast.settled_opened session.snapshot
  calls := nofun

theorem step_of_turn {call : Call} (there : world.calls[id]? = some call) {took : List Edition}
    {rest : Thread call.request.Answer} {after : Session State}
    (turned : call.rest.turn world.tree world.session = some (took, rest, after)) :
    Step world (.turned id) { world with
      session := after
      calls := world.calls.set id ⟨call.request, call.turns + 1, call.taken ++ took, rest⟩ } := by
  refine .turn there ?_
  rw [Call.turn, turned]
  rfl

/-- A call ends within its limit, and until then nobody can keep it from its next turn. -/
theorem Sound.progress (sound : Sound tree session world) {call : Call} (there : world.calls[id]? = some call) :
    call.turns ≤ call.request.limit tree ∧ ((∃ answer, call.rest = .done answer) ∨
      call.turns < call.request.limit tree ∧ ∃ next, Step world (.turned id) next) := by
  obtain ⟨left, limit, meets⟩ := sound.calls call (List.mem_of_getElem? there)
  refine ⟨limit ▸ Nat.le_add_right _ _, ?_⟩
  rcases call.rest.done_or_turn world.tree world.session with done | ⟨⟨took, rest, after⟩, turned⟩
  · exact .inl done
  · obtain ⟨fewer, rfl, _⟩ := meets.turn sound.files sound.detection turned
    refine .inr ⟨?_, _, step_of_turn there turned⟩
    omega

theorem Sound.fits (sound : Sound tree session world) {request : Request} {turns : Nat} {taken : List Edition}
    {answer : request.Answer} (there : world.calls[id]? = some ⟨request, turns, taken, .done answer⟩) :
    request.Fits tree session taken answer := by
  obtain ⟨left, _, meets⟩ := sound.calls _ (List.mem_of_getElem? there)
  exact meets.fits_of_done

def EndsAlone (id : Nat) (world : World State) (request : Request) (outcome : request.Answer × Session State) :
    Prop :=
  ∃ events final turns taken, Run world events final ∧ (∀ event ∈ events, event = .turned id) ∧
    final.session = outcome.2 ∧ final.calls[id]? = some ⟨request, turns, taken, .done outcome.1⟩

theorem EndsAlone.step {request : Request} {outcome : request.Answer × Session State}
    (stepped : Step world (.turned id) next) (ends : EndsAlone id next request outcome) :
    EndsAlone id world request outcome := by
  obtain ⟨events, final, turns, taken, run, alone, rest⟩ := ends
  exact ⟨.turned id :: events, final, turns, taken, .next stepped run, by simpa using alone, rest⟩

theorem endsAlone {request : Request} {turns : Nat} {taken : List Edition} {rest : Thread request.Answer}
    (there : world.calls[id]? = some ⟨request, turns, taken, rest⟩) :
    EndsAlone id world request (rest.run world.tree world.session) := by
  have again {world : World State} {call : Call} (there : world.calls[id]? = some call) (later : Call) :
      (world.calls.set id later)[id]? = some later :=
    List.getElem?_set_self (List.getElem?_eq_some_iff.mp there).1
  induction rest generalizing world turns taken with
  | done answer => exact ⟨[], world, turns, taken, .done, nofun, rfl, there⟩
  | look next ih => exact .step (step_of_turn there rfl) (ih _ (again there _))
  | take next ih => exact .step (step_of_turn there rfl) (ih _ (again there _))
  | consult next ih => exact .step (step_of_turn there rfl) (ih _ (again there _))
  | keep detection rest ih => exact .step (step_of_turn there rfl) (ih (again there _))

theorem asked_endsAlone (world : World State) (request : Request) :
    ∃ next, Step world (.asked request) next ∧
      EndsAlone world.calls.length next request ((request.thread world.session).run world.tree world.session) :=
  ⟨_, .ask request, endsAlone List.getElem?_concat_length⟩

end

end BslLint.Sharing

import ManifestOwnership.Proofs.Establish.Requests
import ManifestOwnership.Proofs.Store.Course
import Mathlib.Logic.Relation

/-! # Passes that share a store

Several passes make their requests to one store, in any order. Between the read and the write of one
pass others may have written, so a write may go by an object that is no longer there. In a strict
store it does not: an update carries the version of the very object that its owners come from, and
no version is given out twice. Hence every write goes by the object it replaces, and no owner is
lost.
-/

namespace ManifestOwnership

open Store Interaction

variable {α : Type} {issuer : Issuer} {memory middle after : Memory} {key : ObjectKey}
  {object definition stored : Value} {known : Value → Prop} {r : Request}

namespace Store.Memory

/-- An object that was stored once: what has its version under its identity is that object. -/
structure Past (memory : Memory) (object : Value) : Prop where
  versioned : ∃ n, n < memory.versions ∧
    Fields.get object.metadata "resourceVersion" = .text (toString (n + 1))
  current : ∀ key present, Manifest.key object = .ok key → memory.find? key = some present →
    Fields.get present.metadata "resourceVersion" =
      Fields.get object.metadata "resourceVersion" → present = object

theorem Sound.past (sound : memory.Sound) (found : memory.find? key = some object) :
    memory.Past object where
  versioned := (sound.held key object found).versioned
  current own present atOwn there _ := by
    obtain ⟨own', atOwn', same⟩ := (sound.held key object found).filed
    obtain rfl := Except.ok.inj (atOwn'.symm.trans atOwn)
    rw [show memory.find? own' = memory.find? key from Content.find?_congr same, found] at there
    exact (Option.some.inj there).symm

/-- A write gives out a version that no object had before. -/
theorem Past.written (past : memory.Past object) (before : Fields) (key : ObjectKey)
    (writable : Manifest.Writable definition) :
    (memory.written issuer before key definition).Past object := by
  obtain ⟨n, below, version⟩ := past.versioned
  refine ⟨⟨n, Nat.lt_succ_of_lt below, version⟩, ?_⟩
  intro own present atOwn there same
  rw [find?_written] at there
  split_ifs at there
  · obtain rfl := Option.some.inj there
    rw [stamped, writable.metadata_withMetadata, Fields.get, get?_stamp_resourceVersion,
      Option.getD_some, version] at same
    have := versionText_inj same
    omega
  · exact past.current own present atOwn there same

theorem Past.answer (past : memory.Past object) (r : Request) :
    (memory.answer issuer r).state.Past object := by
  obtain ⟨_, unchanged⟩ | ⟨definition, key, _, writable, _, _, state⟩ :=
    answer_cases issuer memory r
  · rwa [unchanged]
  · rw [state]
    exact past.written _ key writable

/-- What a write of a manifest under an identity goes by: nothing, or the object that is there. -/
inductive Heeds (memory : Memory) (key : ObjectKey) (definition : Value) : Prop where
  | new {refs : List OwnerReference} (absent : memory.find? key = none)
      (owners : Manifest.owners definition = .ok refs) (orderly : OwnerReference.Orderly refs)
  | replaces {present : Value} {parent : OwnerReference} {control : Bool}
      {refs : List OwnerReference} (there : memory.find? key = some present)
      (owners : Manifest.owners present = .ok refs)
      (merged : Manifest.owners definition = .ok (parent.merge control refs))

/-- An admissible request to a strict store goes by the object that is there, though it was made
from one that was read before. -/
theorem heeds_of_admissible (issuer : Issuer) (sound : memory.Sound) (strict : memory.strict = true)
    (admissible : Admissible known r) (past : ∀ object, known object → memory.Past object) :
    (memory.answer issuer r).state = memory ∨ ∃ definition key,
      Manifest.Formed definition ∧ Manifest.key definition = .ok key ∧
        memory.Heeds key definition ∧
        (memory.answer issuer r).state =
          memory.written issuer (memory.before key) key definition := by
  cases reply : (memory.answer issuer r).reply with
  | error fault => exact .inl (state_of_fault reply)
  | ok stored =>
    have asked := yields_ask_iff.mpr ⟨reply, rfl⟩
    cases admissible with
    | get => exact .inl rfl
    | @create definition _ formed owners orderly =>
      obtain ⟨_, key, atKey, absent, _, state⟩ := yields_create_iff.mp asked
      exact .inr ⟨definition, key, formed, atKey, .new absent owners orderly, state.symm⟩
    | @update current definition read continues =>
      obtain ⟨_, key, present, atKey, there, timely, _, state⟩ := yields_update_iff.mp asked
      obtain ⟨own, key', atOwn, atKey', same⟩ := continues.sameKey
      obtain rfl := Except.ok.inj (atKey.symm.trans atKey')
      obtain ⟨parent, control, refs, owners, merged⟩ := continues.owners
      -- The version is that of the object read, so the one there is the object read.
      have same : present = current := by
        obtain ⟨n, _, version⟩ := (past current read).versioned
        rw [continues.sameVersion, version, isOutdated, strict] at timely
        have asked : Value.same (.text (toString (n + 1))) (versionOf present) = true := by
          simpa [Value.truthy] using timely
        refine (past current read).current own present atOwn ?_ ?_
        · rw [← there]
          exact (Content.find?_congr same).symm
        · rw [version, ← versionOf_eq (sound.held key present there).formed]
          exact Value.same_text_iff.mp asked
      subst same
      exact .inr ⟨definition, key, continues.formed, atKey, .replaces there owners merged,
        state.symm⟩

/-- Every object has orderly owners, unless it is of an earlier store or they cannot be read. -/
structure OrderlySince (start memory : Memory) : Prop where
  orderly : ∀ key object refs, memory.find? key = some object →
    Manifest.owners object = .ok refs → OwnerReference.Orderly refs
  readable : ∀ key object, memory.find? key = some object →
    start.find? key = some object ∨ ∃ refs, Manifest.owners object = .ok refs

/-- A write that goes by the object it replaces keeps every owner. -/
theorem Heeds.keeps (heeds : memory.Heeds key definition) (formed : Manifest.Formed definition)
    (before : Fields) :
    memory.Keeps (memory.written issuer before key definition) := by
  refine keeps_of_merged (fun other => find?_written before key other definition)
    fun object refs here owners => ?_
  cases heeds with
  | new absent => simp [here] at absent
  | @replaces present parent control refs' there owners' merged =>
    obtain rfl := Option.some.inj (here.symm.trans there)
    obtain rfl := Except.ok.inj (owners.symm.trans owners')
    exact ⟨parent, control, by rw [(agree_stamped formed before).owners_eq (by decide), merged]⟩

/-- A write that goes by the object it replaces leaves the owners orderly. -/
theorem Heeds.orderlySince {start : Memory} (heeds : memory.Heeds key definition)
    (formed : Manifest.Formed definition) (since : start.OrderlySince memory) (before : Fields) :
    start.OrderlySince (memory.written issuer before key definition) := by
  have written : ∃ refs, Manifest.owners (memory.stamped issuer before definition) = .ok refs ∧
      OwnerReference.Orderly refs := by
    rw [(agree_stamped formed before).owners_eq (by decide)]
    cases heeds with
    | new _ owners orderly => exact ⟨_, owners, orderly⟩
    | replaces there owners merged =>
      exact ⟨_, merged, (since.orderly key _ _ there owners).merge _ _⟩
  obtain ⟨refs, owners, orderly⟩ := written
  constructor
  · intro other object refs' found owners'
    rw [find?_written] at found
    split_ifs at found
    · obtain rfl := Option.some.inj found
      obtain rfl := Except.ok.inj (owners.symm.trans owners')
      exact orderly
    · exact since.orderly other object refs' found owners'
  · intro other object found
    rw [find?_written] at found
    split_ifs at found
    · obtain rfl := Option.some.inj found
      exact .inr ⟨refs, owners⟩
    · exact since.readable other object found

/-- An admissible request loses no owner. -/
theorem keeps_of_admissible {start : Memory} (issuer : Issuer) (sound : memory.Sound)
    (strict : memory.strict = true) (since : start.OrderlySince memory)
    (admissible : Admissible known r) (past : ∀ object, known object → memory.Past object) :
    start.OrderlySince (memory.answer issuer r).state ∧
      memory.Keeps (memory.answer issuer r).state := by
  obtain unchanged | ⟨definition, key, formed, _, heeds, state⟩ :=
    heeds_of_admissible issuer sound strict admissible past
  · rw [unchanged]
    exact ⟨since, .refl memory⟩
  · rw [state]
    exact ⟨heeds.orderlySince formed since _, heeds.keeps formed _⟩

end Store.Memory

/-- A store shared by activities, each of which is at some point of its course. -/
structure Shared (α : Type) where
  memory : Memory
  activities : List (Interaction Request Value α)

/-- One activity goes on by a report or a request. -/
inductive Moves (issuer : Issuer) : Shared α → Shared α → Prop where
  | report {memory : Memory} {front back : List (Interaction Request Value α)}
      {event : Log.Event} {rest : Interaction Request Value α} :
      Moves issuer ⟨memory, front ++ .report event rest :: back⟩ ⟨memory, front ++ rest :: back⟩
  | request {memory : Memory} {front back : List (Interaction Request Value α)} {r : Request}
      {resume : Except Fault Value → Interaction Request Value α} :
      Moves issuer ⟨memory, front ++ .request r resume :: back⟩
        ⟨(memory.answer issuer r).state, front ++ resume (memory.answer issuer r).reply :: back⟩

/-- An activity goes on until it has got a reply or has come to its end. -/
def goOn (issuer : Issuer) (memory : Memory) :
    Interaction Request Value α → Memory × Interaction Request Value α
  | .report _ rest => goOn issuer memory rest
  | .request r resume => ((memory.answer issuer r).state, resume (memory.answer issuer r).reply)
  | ended => (memory, ended)

/-- The activity at a place takes its turn. -/
def Shared.turn (issuer : Issuer) (shared : Shared α) (place : Nat) : Shared α :=
  match shared.activities[place]? with
  | some activity =>
    ⟨(goOn issuer shared.memory activity).1,
      shared.activities.set place (goOn issuer shared.memory activity).2⟩
  | none => shared

theorem moves_goOn (issuer : Issuer) (activity : Interaction Request Value α) (memory : Memory)
    (front back : List (Interaction Request Value α)) :
    Relation.ReflTransGen (Moves issuer) ⟨memory, front ++ activity :: back⟩
      ⟨(goOn issuer memory activity).1, front ++ (goOn issuer memory activity).2 :: back⟩ := by
  induction activity generalizing memory with
  | done a => exact .refl
  | fail fault => exact .refl
  | report event rest ih => exact .head .report (ih memory)
  | request r resume => exact .single .request

/-- In whatever order the activities take turns, these are moves of theirs. -/
theorem moves_turns (issuer : Issuer) (places : List Nat) (shared : Shared α) :
    Relation.ReflTransGen (Moves issuer) shared (places.foldl (Shared.turn issuer) shared) := by
  induction places generalizing shared with
  | nil => exact .refl
  | cons place rest ih =>
    refine .trans ?_ (ih (shared.turn issuer place))
    unfold Shared.turn
    split
    · next activity found =>
      obtain ⟨within, rfl⟩ := List.getElem?_eq_some_iff.mp found
      obtain ⟨front, back, split, _, set⟩ := List.exists_of_set within
      rw [set]
      have moves := moves_goOn issuer shared.activities[place] shared.memory front back
      rwa [← split] at moves
    · exact .refl

/-- What holds of a strict store that careful activities share: the objects that they know were all
stored once, and the owners are orderly. -/
structure Invariant (start : Memory) (shared : Shared α) : Prop where
  sound : shared.memory.Sound
  strict : shared.memory.strict = true
  since : start.OrderlySince shared.memory
  careful : ∀ activity ∈ shared.activities, ∃ known, Careful (fun _ _ => True) known activity ∧
    ∀ object, known object → shared.memory.Past object

namespace Invariant

variable {start : Memory} {shared shared' : Shared α}

/-- Whatever activity goes on, the invariant is kept and no owner is lost. -/
theorem move (invariant : Invariant start shared) (moves : Moves issuer shared shared') :
    Invariant start shared' ∧ shared.memory.Keeps shared'.memory := by
  obtain ⟨sound, strict, since, careful⟩ := invariant
  cases moves with
  | @report memory front back event rest =>
    refine ⟨⟨sound, strict, since, fun activity member => ?_⟩, .refl memory⟩
    simp only [List.mem_append, List.mem_cons] at member careful
    rcases member with member | rfl | member
    · exact careful activity (.inl member)
    · exact careful (.report event activity) (.inr (.inl rfl))
    · exact careful activity (.inr (.inr member))
  | @request memory front back r resume =>
    simp only [List.mem_append, List.mem_cons] at careful
    obtain ⟨known, ⟨admissible, goesOn⟩, past⟩ := careful (.request r resume) (.inr (.inl rfl))
    obtain ⟨since', keeps⟩ :=
      Memory.keeps_of_admissible issuer sound strict since admissible past
    refine ⟨⟨sound.answer r, (Memory.strict_answer issuer memory r).trans strict, since', ?_⟩,
      keeps⟩
    have others : ∀ activity, (activity ∈ front ∨ activity ∈ back) → ∃ known,
        Careful (fun _ _ => True) known activity ∧
          ∀ object, known object → (memory.answer issuer r).state.Past object := by
      intro activity member
      obtain ⟨known, careful, past⟩ := careful activity (by tauto)
      exact ⟨known, careful, fun object read => (past object read).answer r⟩
    intro activity member
    simp only [List.mem_append, List.mem_cons] at member
    rcases member with member | rfl | member
    · exact others activity (.inl member)
    · refine ⟨learned known (memory.answer issuer r).reply,
        goesOn _ (Memory.plausible_reply issuer sound r), ?_⟩
      rintro object (read | reply)
      · exact (past object read).answer r
      · obtain ⟨key, _, found⟩ := Memory.find?_of_reply reply
        exact (sound.answer r).past found
    · exact others activity (.inr member)

/-- In whatever order the activities go on, the invariant is kept and no owner is lost. -/
theorem run (invariant : Invariant start shared)
    (moves : Relation.ReflTransGen (Moves issuer) shared shared') :
    Invariant start shared' ∧ shared.memory.Keeps shared'.memory := by
  induction moves with
  | refl => exact ⟨invariant, .refl _⟩
  | tail _ step ih =>
    obtain ⟨next, kept⟩ := ih.1.move step
    exact ⟨next, ih.2.trans kept⟩

end Invariant

/-- However the requests of passes to a strict store are mixed, the owners of every object stay
orderly, and an owner that is on an object once stays on it. -/
theorem Undertaking.owners_survive_interleaving (undertakings : List Undertaking)
    (reachable : memory.Reachable issuer) (strict : memory.strict = true)
    (orderly : ∀ key object refs, memory.find? key = some object →
      Manifest.owners object = .ok refs → OwnerReference.Orderly refs)
    (distinct : ∀ undertaking ∈ undertakings, ∀ declared ∈ undertaking.objects, ∀ refs,
      Manifest.owners declared = .ok refs →
        refs.Pairwise fun first second => first.sameKey second = false)
    {shared later : Shared (List Established)}
    (earlier : Relation.ReflTransGen (Moves issuer)
      ⟨memory, undertakings.map Undertaking.activity⟩ shared)
    (moves : Relation.ReflTransGen (Moves issuer) shared later) :
    memory.OrderlySince shared.memory ∧ shared.memory.Keeps later.memory := by
  have start : Invariant memory
      (Shared.mk memory (undertakings.map Undertaking.activity)) := by
    refine ⟨reachable.sound, strict, ⟨orderly, fun key object found => .inl found⟩, ?_⟩
    intro activity member
    obtain ⟨undertaking, listed, rfl⟩ := List.mem_map.mp member
    exact ⟨fun _ => False, undertaking.careful_activity (distinct undertaking listed),
      fun _ unknown => unknown.elim⟩
  obtain ⟨invariant, _⟩ := start.run earlier
  exact ⟨invariant.since, (invariant.run moves).2⟩

/-- Two revisions have read an object when the first one takes control of it. The update of the
second one goes by the object that was read, and is refused. -/
theorem Undertaking.owners_survive_interleaving_ofNames :
    ∃ (start : Memory) (shared later : Shared (List Established)) (object : Value)
      (refs : List OwnerReference) (fault : Fault),
    Memory.ofResources Memory.numerals true [bare "a"] = .ok start ∧
    shared = [0, 1, 0].foldl (Shared.turn Memory.numerals)
      ⟨start, [(ofNames "q" ["a"] true).activity, (ofNames "r" ["a"] false).activity]⟩ ∧
    later = [1, 1].foldl (Shared.turn Memory.numerals) shared ∧
    shared.memory.find? ⟨.null, .text "Thing", .text "v1", .text "a"⟩ = some object ∧
    Manifest.owners object = .ok refs ∧ refs.map (·.name) = [.text "q"] ∧
    later.activities[1]? = some (.fail fault) ∧ fault.problem? = some .objectConflict ∧
    start.OrderlySince shared.memory ∧ shared.memory.Keeps later.memory := by
  refine ⟨_, _, _, _, _, _, rfl, rfl, rfl, rfl, rfl, rfl, rfl, rfl, ?_⟩
  have reachable : Memory.Reachable Memory.numerals _ :=
    .start (rfl : Memory.ofResources Memory.numerals true [bare "a"] = .ok _)
  refine owners_survive_interleaving [ofNames "q" ["a"] true, ofNames "r" ["a"] false] reachable
    rfl ?_ ?_ (moves_turns Memory.numerals [0, 1, 0] _) (moves_turns Memory.numerals [1, 1] _)
  · intro key object refs found owners
    have member := reachable.sound.mem_objects_iff.mpr ⟨key, found⟩
    obtain rfl := List.mem_singleton.mp member
    obtain rfl : [] = refs := Except.ok.inj owners
    exact ⟨.nil, Nat.zero_le 1⟩
  · intro undertaking member declared declares refs owners
    obtain rfl : declared = bare "a" := by
      simp only [List.mem_cons, List.not_mem_nil, or_false] at member
      rcases member with rfl | rfl <;> exact List.mem_singleton.mp declares
    obtain rfl : [] = refs := Except.ok.inj owners
    exact .nil

end ManifestOwnership

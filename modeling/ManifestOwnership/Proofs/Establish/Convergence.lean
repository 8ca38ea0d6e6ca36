import ManifestOwnership.Proofs.Establish.Joining
import ManifestOwnership.Proofs.OwnerReference.Laws

/-! # Retries converge

A pass that is made again, after a pass over all or some of the same objects, ends where a single
pass would have ended, up to the versions that the store counts. There are two parts to this. Stores
that are alike but for versions stay so under one pass. And a pass over objects that a pass has gone
over before finds each revision merged already, so that only the content changes on the way, and
that is at the end what the first pass left.
-/

namespace ManifestOwnership

open Store Interaction

variable {issuer : Issuer} {first second memory middle after : Memory} {pass : Pass}
  {key : ObjectKey} {declared desired stored : Value} {objects : List Value}
  {result : Established} {results : List Established}

namespace Manifest

/-- Manifests that agree on what a pass adjusts, the version apart, agree on all but the version. -/
theorem Agree.of_adjusted {left right : Value} (agree : Agree Pass.adjusted left right)
    (owners : Fields.get? left.metadata "ownerReferences" =
      Fields.get? right.metadata "ownerReferences")
    (uid : Fields.get? left.metadata "uid" = Fields.get? right.metadata "uid")
    (time : Fields.get? left.metadata "creationTimestamp" =
      Fields.get? right.metadata "creationTimestamp") : Agree ["resourceVersion"] left right := by
  refine agree.narrow fun name member kept => ?_
  simp only [Pass.adjusted, Memory.managedNames, List.mem_cons, List.not_mem_nil, or_false]
    at member kept
  rcases member with rfl | rfl | rfl | rfl
  · exact owners
  · exact uid
  · exact time
  · contradiction

end Manifest

namespace Store.Memory

/-- Stores that hold the same objects but for their versions and have issued as much. -/
structure Alike (first second : Memory) : Prop where
  found : ∀ key, Option.Rel (Manifest.Agree ["resourceVersion"]) (first.find? key)
    (second.find? key)
  uids : first.uids = second.uids
  times : first.times = second.times

namespace Alike

theorem isSome_eq (alike : Alike first second) (key : ObjectKey) :
    (first.find? key).isSome = (second.find? key).isSome := by
  have related := alike.found key
  generalize first.find? key = left, second.find? key = right at related
  cases related <;> rfl

theorem skips_eq (alike : Alike first second) (pass : Pass) (key : ObjectKey) :
    pass.skips first key = pass.skips second key := by
  simp only [Pass.skips, ← Option.not_isSome, alike.isSome_eq]

/-- Writes to stores that are alike go by the same managed fields. -/
theorem before (alike : Alike first second) (sound : first.Sound) (sound' : second.Sound)
    (key : ObjectKey) {name : String} (kept : name ≠ "resourceVersion") :
    Fields.get (first.before key) name = Fields.get (second.before key) name := by
  have related := alike.found key
  generalize found : first.find? key = left, found' : second.find? key = right at related
  cases related with
  | none => rw [before_of_none found, before_of_none found']
  | some agree =>
    rw [sound.before_of_some found, sound'.before_of_some found', agree.get (by simpa using kept)]

theorem met (alike : Alike first second) (formed : Manifest.Formed desired) (key : ObjectKey) :
    Manifest.Agree ["resourceVersion"] (Pass.met first key desired)
      (Pass.met second key desired) := by
  have related := alike.found key
  rw [Pass.met, Pass.met]
  generalize first.find? key = left, second.find? key = right at related ⊢
  cases related with
  | none => exact .refl formed
  | some agree => exact agree

theorem base (alike : Alike first second) (pass : Pass) (formed : Manifest.Formed desired)
    (key : ObjectKey) :
    Manifest.Agree ["resourceVersion"] (pass.base first key desired)
      (pass.base second key desired) := by
  unfold Pass.base
  split_ifs
  · exact .refl formed
  · exact alike.met formed key

/-- Writing one object leaves stores alike that were so before. -/
theorem wrote {stored stored' : Value} {after after' : Memory} (alike : Alike first second)
    (sound : first.Sound) (sound' : second.Sound) (formed : Manifest.Formed desired)
    (left : pass.Wrote issuer first desired key stored after)
    (right : pass.Wrote issuer second desired key stored' after') : Alike after after' := by
  have before {name : String} (kept : name ≠ "resourceVersion") :=
    alike.before sound sound' key kept
  have base {name : String} (kept : name ≠ "resourceVersion") :=
    (alike.base pass formed key).get (by simpa using kept)
  have agree : Manifest.Agree ["resourceVersion"] stored stored' := by
    refine Manifest.Agree.of_adjusted ?_ ?_ ?_ ?_
    · exact left.content.trans (((alike.base pass formed key).mono (by
        simp [Pass.adjusted, managedNames])).trans right.content.symm)
    · obtain ⟨refs, owners, listed⟩ := left.owners
      obtain ⟨refs', owners', listed'⟩ := right.owners
      rw [(alike.met formed key).owners_eq (by decide)] at owners
      obtain rfl := Except.ok.inj (owners.symm.trans owners')
      rw [listed, listed']
    · rw [left.uid, right.uid, alike.uids, managed_congr (before (by decide)) (base (by decide))]
    · rw [left.time, right.time, alike.times,
        managed_congr (before (by decide)) (base (by decide))]
  refine ⟨fun other => ?_, ?_, ?_⟩
  · rw [left.found, right.found]
    split_ifs
    · exact .some agree
    · exact alike.found other
  · rw [left.uids, right.uids, alike.uids, isNew_congr (before (by decide)) (base (by decide))]
  · rw [left.times, right.times, alike.times,
      isNew_congr (before (by decide)) (base (by decide))]

/-- One object is established alike in stores that are alike. -/
theorem establishOne (alike : Alike first second) (sound : first.Sound) (sound' : second.Sound)
    (success : Yields (answer issuer) second (pass.establishOne declared) result after) :
    ∃ after', Yields (answer issuer) first (pass.establishOne declared) result after' ∧
      Alike after' after := by
  obtain ⟨desired, key, prepared, shown, leaves⟩ := Pass.leaves_of_yields sound' success
  obtain ⟨reference, outcome⟩ := result
  have skips := alike.skips_eq pass key
  have readable : pass.skips first key = false →
      ∃ refs, Manifest.owners (Pass.met first key desired) = .ok refs := by
    intro writes
    cases leaves with
    | skipped skipped => simp [← skips, writes] at skipped
    | wrote _ wrote =>
      obtain ⟨refs, owners, _⟩ := wrote.owners
      exact ⟨refs, ((alike.met prepared.formed key).owners_eq (by decide)).trans owners⟩
  obtain ⟨outcome', after', success', leaves'⟩ :=
    Pass.exists_yields issuer sound prepared shown readable
  cases leaves with
  | skipped skipped =>
    cases leaves' with
    | skipped => exact ⟨_, success', alike⟩
    | wrote writes => simp [← skips, writes] at skipped
  | wrote writes wrote =>
    cases leaves' with
    | skipped skipped => simp [skips, writes] at skipped
    | wrote _ wrote' =>
      rw [← alike.isSome_eq]
      exact ⟨after', success', alike.wrote sound sound' prepared.formed wrote' wrote⟩

/-- Objects are established alike in stores that are alike. -/
theorem establishAll (alike : Alike first second) (sound : first.Sound) (sound' : second.Sound)
    (success : Yields (answer issuer) second (pass.establishAll objects) results after) :
    ∃ after', Yields (answer issuer) first (pass.establishAll objects) results after' ∧
      Alike after' after := by
  induction objects generalizing first second results with
  | nil =>
    obtain ⟨rfl, rfl⟩ := Pass.yields_establishAll_nil_iff.mp success
    exact ⟨first, Pass.yields_establishAll_nil_iff.mpr ⟨rfl, rfl⟩, alike⟩
  | cons declared rest ih =>
    obtain ⟨result, middle, others, one, all, rfl⟩ :=
      Pass.yields_establishAll_cons_iff.mp success
    obtain ⟨middle', one', alike'⟩ := alike.establishOne sound sound' one
    obtain ⟨after', all', alike''⟩ := ih alike' (sound.yields one') (sound'.yields one) all
    exact ⟨after', Pass.yields_establishAll_cons_iff.mpr ⟨_, _, _, one', all', rfl⟩, alike''⟩

end Alike

end Store.Memory

namespace Pass

/-- The revision is merged among the owners under an identity, which has an object if the revision
takes control. -/
structure Absorbed (pass : Pass) (memory : Memory) (key : ObjectKey) : Prop where
  present : pass.takesControl = true → (memory.find? key).isSome = true
  merged : ∀ object, memory.find? key = some object → ∃ refs : List OwnerReference,
    (∀ ref ∈ refs, ref.Plain) ∧
      Fields.get? object.metadata "ownerReferences" =
        some (.list (refs.map OwnerReference.toValue)) ∧
      pass.parent.reference.merge pass.takesControl refs = refs

theorem Absorbed.of_find?_eq {other : ObjectKey} (absorbed : pass.Absorbed memory key)
    (found : after.find? other = memory.find? key) : pass.Absorbed after other := by
  constructor
  · rw [found]
    exact absorbed.present
  · rw [found]
    exact absorbed.merged

/-- A written object has the revision among its owners, and merging it once more does nothing. -/
theorem Wrote.absorbed (wrote : Wrote issuer pass memory desired key stored after) :
    pass.Absorbed after key := by
  obtain ⟨refs, owners, listed⟩ := wrote.owners
  constructor
  · intro _
    rw [wrote.find?_self]
    rfl
  · intro object found
    obtain rfl := Option.some.inj (wrote.find?_self.symm.trans found)
    exact ⟨_, OwnerReference.plain_merge _ (OwnerReference.plain_reference _)
      (Manifest.plain_of_owners owners), listed, OwnerReference.merge_merge _ _ _⟩

/-- An identity that a pass has gone over has absorbed the revision, and so has every identity that
had before. -/
theorem Leaves.absorbed {outcome : Outcome}
    (leaves : Leaves issuer pass memory desired key outcome after) :
    pass.Absorbed after key ∧ ∀ other, pass.Absorbed memory other → pass.Absorbed after other := by
  cases leaves with
  | skipped skips =>
    obtain ⟨mere, absent⟩ : pass.takesControl = false ∧ memory.find? key = none := by
      simpa [Pass.skips] using skips
    refine ⟨⟨by simp [mere], by simp [absent]⟩, fun other absorbed => absorbed⟩
  | wrote writes wrote =>
    refine ⟨wrote.absorbed, ?_⟩
    intro other absorbed
    cases same : key.same other with
    | true => exact wrote.absorbed.of_find?_eq (Content.find?_congr (ObjectKey.same_symm same))
    | false => exact absorbed.of_find?_eq (wrote.find?_other same)

theorem absorbed_of_yields (sound : memory.Sound)
    (success : Yields (Memory.answer issuer) memory (pass.establishAll objects) results after) :
    (∀ other, pass.Absorbed memory other → pass.Absorbed after other) ∧
      ∀ declared ∈ objects, ∀ desired key, pass.Prepared declared desired key →
        pass.Absorbed after key := by
  induction objects generalizing memory results with
  | nil =>
    obtain ⟨_, rfl⟩ := yields_establishAll_nil_iff.mp success
    exact ⟨fun _ absorbed => absorbed, by simp⟩
  | cons declared rest ih =>
    obtain ⟨result, middle, others, one, all, _⟩ := yields_establishAll_cons_iff.mp success
    obtain ⟨desired, key, prepared, _, leaves⟩ := leaves_of_yields sound one
    obtain ⟨here, kept⟩ := leaves.absorbed
    obtain ⟨kept', there⟩ := ih (sound.yields one) all
    refine ⟨fun other absorbed => kept' other (kept other absorbed), ?_⟩
    intro other member desired' key' prepared'
    rcases List.mem_cons.mp member with rfl | member
    · obtain ⟨rfl, rfl⟩ := prepared.unique prepared'
      exact kept' key here
    · exact there other member desired' key' prepared'

end Pass

namespace Store.Memory

/-- The fields that a pass over absorbed identities leaves as they are. -/
def recorded : List String :=
  ["ownerReferences", "uid", "creationTimestamp"]

/-- Stores that hold objects of the same owners, uids and times, and have issued as much. -/
structure Kindred (first second : Memory) : Prop where
  found : ∀ key, Option.Rel (fun left right => ∀ name ∈ recorded,
    Fields.get? left.metadata name = Fields.get? right.metadata name) (first.find? key)
      (second.find? key)
  uids : first.uids = second.uids
  times : first.times = second.times

namespace Kindred

theorem refl (memory : Memory) : Kindred memory memory := by
  refine ⟨fun key => ?_, rfl, rfl⟩
  cases memory.find? key with
  | none => exact .none
  | some object => exact .some fun _ _ => rfl

private theorem wrote {object object' : Value} (kindred : Kindred first second)
    (sound : first.Sound) (found : first.find? key = some object)
    (found' : second.find? key = some object') (absorbed : pass.Absorbed second key)
    (same : ∀ name ∈ recorded,
      Fields.get? object.metadata name = Fields.get? object'.metadata name)
    (wrote : pass.Wrote issuer first desired key stored after) : Kindred after second := by
  have held := sound.held key object found
  obtain ⟨refs, plain, listed, settled⟩ := absorbed.merged object' found'
  obtain ⟨refs', owners, written⟩ := wrote.owners
  have uid := managed_of_truthy held.identified (pass.base first key desired).metadata
    (issuer.uid (first.uids + 1))
  have time := managed_of_truthy held.timed (pass.base first key desired).metadata
    (issuer.time (first.times + 1))
  rw [← sound.before_of_some found] at uid time
  rw [Pass.met, found, Option.getD_some, held.formed.owners_of_listed plain
    ((same _ (by decide)).trans listed), Except.ok.injEq] at owners
  subst owners
  refine ⟨fun other => ?_, ?_, ?_⟩
  · rw [wrote.found]
    split_ifs with here
    · have there : second.find? other = some object' := by
        rw [← found']
        exact (Content.find?_congr here).symm
      rw [there]
      refine .some ?_
      intro name member
      simp only [recorded, List.mem_cons, List.not_mem_nil, or_false] at member
      rcases member with rfl | rfl | rfl
      · rw [written, settled, listed]
      · rw [wrote.uid, uid.1, sound.before_of_some found, same _ (by decide)]
      · rw [wrote.time, time.1, sound.before_of_some found, same _ (by decide)]
    · exact kindred.found other
  · rw [wrote.uids, uid.2, kindred.uids]
    rfl
  · rw [wrote.times, time.2, kindred.times]
    rfl

/-- Going over an absorbed identity once more changes none of the recorded fields. -/
theorem establishOne (kindred : Kindred first second) (sound : first.Sound)
    (prepared : pass.Prepared declared desired key) (absorbed : pass.Absorbed second key)
    {reference : TypedReference} (shown : TypedReference.ofManifest desired = .ok reference) :
    ∃ outcome after, Yields (answer issuer) first (pass.establishOne declared)
      ⟨reference, outcome⟩ after ∧ Kindred after second := by
  have related := kindred.found key
  generalize found : first.find? key = left, found' : second.find? key = right at related
  cases related with
  | none =>
    have mere : pass.takesControl = false := by
      by_contra control
      simpa [found'] using absorbed.present (by simpa using control)
    have skips : pass.skips first key = true := by simp [Pass.skips, mere, found]
    obtain ⟨outcome, after, success, leaves⟩ :=
      Pass.exists_yields issuer sound prepared shown fun writes => by simp [skips] at writes
    cases leaves with
    | skipped => exact ⟨_, _, success, kindred⟩
    | wrote writes => simp [skips] at writes
  | @some object object' same =>
    obtain ⟨refs, plain, listed, _⟩ := absorbed.merged object' found'
    have owners : Manifest.owners object = .ok refs :=
      (sound.held key object found).formed.owners_of_listed plain
        ((same _ (by decide)).trans listed)
    obtain ⟨outcome, after, success, leaves⟩ :=
      Pass.exists_yields issuer sound prepared shown fun _ => ⟨refs, by
        rw [Pass.met, found, Option.getD_some, owners]⟩
    cases leaves with
    | skipped skips => simp [Pass.skips, found] at skips
    | wrote _ wrote => exact ⟨_, _, success, kindred.wrote sound found found' absorbed same wrote⟩

/-- Going over absorbed identities once more changes none of the recorded fields. -/
theorem establishAll (kindred : Kindred first second) (sound : first.Sound) (sound' : memory.Sound)
    (success : Yields (answer issuer) memory (pass.establishAll objects) results middle)
    (absorbed : ∀ declared ∈ objects, ∀ desired key, pass.Prepared declared desired key →
      pass.Absorbed second key) :
    ∃ results' after, Yields (answer issuer) first (pass.establishAll objects) results' after ∧
      results'.map Established.reference = results.map Established.reference ∧
      Kindred after second := by
  induction objects generalizing first memory results with
  | nil =>
    obtain ⟨rfl, _⟩ := Pass.yields_establishAll_nil_iff.mp success
    exact ⟨[], first, Pass.yields_establishAll_nil_iff.mpr ⟨rfl, rfl⟩, rfl, kindred⟩
  | cons declared rest ih =>
    obtain ⟨here, there⟩ := List.forall_mem_cons.mp absorbed
    obtain ⟨result, _, others, one, all, rfl⟩ := Pass.yields_establishAll_cons_iff.mp success
    obtain ⟨desired, key, prepared, shown, _⟩ := Pass.leaves_of_yields sound' one
    obtain ⟨outcome, first', one', kindred'⟩ :=
      kindred.establishOne sound prepared (here desired key prepared) shown
    obtain ⟨others', after, all', references, kindred''⟩ :=
      ih kindred' (sound.yields one') (sound'.yields one) all there
    exact ⟨_, after, Pass.yields_establishAll_cons_iff.mpr ⟨_, _, _, one', all', rfl⟩,
      by simp [references], kindred''⟩

end Kindred

end Store.Memory

namespace Pass

/-- A revision that takes control writes every object with the desired content. -/
theorem Leaves.of_control {outcome : Outcome} (control : pass.takesControl = true)
    (leaves : Leaves issuer pass memory desired key outcome after) :
    ∃ stored, Manifest.Agree adjusted stored desired ∧ ∀ other, after.find? other =
      if key.same other then some stored else memory.find? other := by
  cases leaves with
  | skipped skips => simp [Pass.skips, control] at skips
  | @wrote stored _ _ wrote =>
    have content := wrote.content
    rw [base, if_pos control] at content
    exact ⟨stored, content, wrote.found⟩

/-- A revision that takes control leaves the same content wherever it goes over, whatever the
stores held before. -/
theorem content_of_control (control : pass.takesControl = true) {results' : List Established}
    {first' second' : Memory} (sound : first.Sound) (sound' : second.Sound)
    (success : Yields (Memory.answer issuer) first (pass.establishAll objects) results first')
    (success' : Yields (Memory.answer issuer) second (pass.establishAll objects) results' second')
    (key : ObjectKey) :
    (first'.find? key = first.find? key ∧ second'.find? key = second.find? key) ∨
      Option.Rel (Manifest.Agree adjusted) (first'.find? key) (second'.find? key) := by
  induction objects generalizing first second results results' with
  | nil =>
    obtain ⟨_, rfl⟩ := yields_establishAll_nil_iff.mp success
    obtain ⟨_, rfl⟩ := yields_establishAll_nil_iff.mp success'
    exact .inl ⟨rfl, rfl⟩
  | cons declared rest ih =>
    obtain ⟨_, _, _, one, all, _⟩ := yields_establishAll_cons_iff.mp success
    obtain ⟨_, _, _, one', all', _⟩ := yields_establishAll_cons_iff.mp success'
    rcases ih (sound.yields one) (sound'.yields one') all all' with ⟨left, right⟩ | related
    · obtain ⟨desired, own, prepared, _, leaves⟩ := leaves_of_yields sound one
      obtain ⟨desired', own', prepared', _, leaves'⟩ := leaves_of_yields sound' one'
      obtain ⟨rfl, rfl⟩ := prepared.unique prepared'
      obtain ⟨stored, agree, found⟩ := leaves.of_control control
      obtain ⟨stored', agree', found'⟩ := leaves'.of_control control
      rw [left, right, found, found']
      split_ifs with here
      · exact .inr (.some (agree.trans agree'.symm))
      · exact .inl ⟨rfl, rfl⟩
    · exact .inr related

private theorem content_refl (sound : memory.Sound) (key : ObjectKey) :
    Option.Rel (Manifest.Agree adjusted) (memory.find? key) (memory.find? key) := by
  cases found : memory.find? key with
  | none => exact .none
  | some object => exact .some (.refl (sound.held key object found).formed)

/-- A mere owner leaves the content of every object. -/
theorem content_of_mere (mere : pass.takesControl = false) (sound : memory.Sound)
    (success : Yields (Memory.answer issuer) memory (pass.establishAll objects) results after)
    (key : ObjectKey) :
    Option.Rel (Manifest.Agree adjusted) (after.find? key) (memory.find? key) := by
  have touched : Option.Rel (Manifest.Touched pass.parent.reference True) (memory.find? key)
      (after.find? key) :=
    touched_of_yields mere sound success fun _ _ _ _ _ => trivial
  generalize after.find? key = left at touched ⊢
  cases found : memory.find? key with
  | none =>
    rw [found] at touched
    cases touched
    exact .none
  | some object =>
    rw [found] at touched
    cases touched with
    | some touched =>
      cases touched with
      | untouched => exact .some (.refl (sound.held key object found).formed)
      | joined _ content _ =>
        exact .some (content.mono (by simp [adjusted, Memory.managedNames]))

/-- Going over the objects of a pass once more changes nothing but versions. -/
theorem establishAll_again (sound : memory.Sound)
    (success : Yields (Memory.answer issuer) memory (pass.establishAll objects) results middle) :
    ∃ results' after, Yields (Memory.answer issuer) middle (pass.establishAll objects) results'
        after ∧
      results'.map Established.reference = results.map Established.reference ∧
      after.Alike middle := by
  have sound' := sound.yields success
  obtain ⟨results', after, success', references, kindred⟩ :=
    (Memory.Kindred.refl middle).establishAll sound' sound success
      (absorbed_of_yields sound success).2
  have content (key : ObjectKey) :
      Option.Rel (Manifest.Agree adjusted) (after.find? key) (middle.find? key) := by
    cases control : pass.takesControl with
    | true =>
      rcases content_of_control control sound' sound success' success key with
        ⟨unchanged, _⟩ | related
      · rw [unchanged]
        exact content_refl sound' key
      · exact related
    | false => exact content_of_mere control sound' success' key
  refine ⟨results', after, success', references, fun key => ?_, kindred.uids, kindred.times⟩
  have agree := content key
  have same := kindred.found key
  generalize after.find? key = left, middle.find? key = right at agree same ⊢
  cases agree with
  | none => exact .none
  | some agree =>
    cases same with
    | some same =>
      exact .some (agree.of_adjusted (same _ (by decide)) (same _ (by decide))
        (same _ (by decide)))

end Pass

/-- A pass over the first objects and then over all of them ends where one pass over all of them
does, up to versions: the retry succeeds, gives the same references and leaves the same objects. The
one condition is that the pass does not write the secret that it reads its bundle from. -/
theorem Undertaking.retry_converges (undertaking : Undertaking) {final : Memory}
    (reachable : memory.Reachable issuer)
    (success : Yields (Memory.answer issuer) memory undertaking.activity results final)
    (apart : ∀ key, undertaking.secretKey = .ok (some key) → ¬ undertaking.Declares key)
    (count : Nat) :
    ∃ early middle again last,
      Yields (Memory.answer issuer) memory (undertaking.first count).activity early middle ∧
      Yields (Memory.answer issuer) middle undertaking.activity again last ∧
      again.map Established.reference = results.map Established.reference ∧
      ∀ key, Option.Rel (Manifest.Agree ["resourceVersion"]) (last.find? key)
        (final.find? key) := by
  have sound := reachable.sound
  obtain ⟨bundle, fetched, accepted, all⟩ := yields_activity_iff.mp success
  rw [← List.take_append_drop count undertaking.objects] at all
  obtain ⟨early, middle, late, front, back, rfl⟩ := Pass.yields_establishAll_append_iff.mp all
  have sound' := sound.yields front
  have early_success : Yields (Memory.answer issuer) memory (undertaking.first count).activity early
      middle :=
    yields_activity_iff.mpr ⟨bundle, fetched,
      fun none declared member => accepted none declared (List.mem_of_mem_take member), front⟩
  -- The first objects are gone over once more and the others then find a store like the first time.
  obtain ⟨early', middle', front', references, alike⟩ := Pass.establishAll_again sound front
  obtain ⟨last, back', alike'⟩ := alike.establishAll (sound'.yields front') sound' back
  refine ⟨early, middle, early' ++ late, last, early_success, ?_, by simp [references],
    alike'.found⟩
  refine yields_activity_iff.mpr ⟨bundle, ?_, accepted, ?_⟩
  · refine (yields_fetch_congr fetched fun key secret => ?_).2
    refine (find?_of_not_declares (undertaking.first count) front sound ?_).symm
    rintro ⟨declared, member, final, atFinal, same⟩
    exact apart key secret ⟨declared, List.mem_of_mem_take member, final, atFinal, same⟩
  · rw [← List.take_append_drop count undertaking.objects]
    exact Pass.yields_establishAll_append_iff.mpr ⟨_, _, _, front', back', rfl⟩

/-- A pass over two objects of one identity and one between them is made again after the first. -/
theorem Undertaking.retry_converges_ofNames : ∃ final early middle again last,
    Yields (Memory.answer Memory.numerals) (Memory.empty true)
      ((ofNames "r" ["a", "b", "a"] true).first 1).activity early middle ∧
    Yields (Memory.answer Memory.numerals) middle (ofNames "r" ["a", "b", "a"] true).activity
      again last ∧
    again.map Established.reference =
      [⟨.text "v1", .text "Thing", .text "a"⟩, ⟨.text "v1", .text "Thing", .text "b"⟩,
        ⟨.text "v1", .text "Thing", .text "a"⟩] ∧
    ∀ key, Option.Rel (Manifest.Agree ["resourceVersion"]) (last.find? key)
      (Memory.find? final key) := by
  have start : Memory.Reachable Memory.numerals (Memory.empty true) :=
    .start (show Memory.ofResources Memory.numerals true [] = .ok _ from rfl)
  have success : Yields (Memory.answer Memory.numerals) (Memory.empty true)
      (ofNames "r" ["a", "b", "a"] true).activity
      [⟨⟨.text "v1", .text "Thing", .text "a"⟩, .created⟩,
        ⟨⟨.text "v1", .text "Thing", .text "b"⟩, .created⟩,
        ⟨⟨.text "v1", .text "Thing", .text "a"⟩, .updated⟩] _ := ⟨rfl, rfl⟩
  have noSecret : (ofNames "r" ["a", "b", "a"] true).secretKey = .ok none := rfl
  refine ⟨_, retry_converges _ start success (fun key secret => ?_) 1⟩
  simp [noSecret] at secret

end ManifestOwnership

import ManifestOwnership.Proofs.Revision.Package
import ManifestOwnership.Webhook.Name

/-! # Names of different packages do not collide

A derived name is a lead, the kind of the package in lower case and the name of the package, with a
dash between them. Lead and package name may hold dashes themselves. The name can be taken apart all
the same as long as the kind holds none: equal names then come from the same kind and the same
package, whichever manifests are named and whichever revisions of the package name them. The package
is the first owner of the name that the label gives (`PackageSearch.run_eq_found_iff`).
-/

namespace ManifestOwnership.Webhook

private theorem append_cons_inj {mark : Char} {front front' back back' : List Char}
    (fresh : mark ∉ front) (fresh' : mark ∉ front') :
    front ++ mark :: back = front' ++ mark :: back' ↔ front = front' ∧ back = back' := by
  constructor
  · intro same
    have lengths : front.length = front'.length := by
      have places := congrArg (List.idxOf mark) same
      simpa [List.idxOf_append_of_notMem, fresh, fresh'] using places
    obtain ⟨fronts, backs⟩ := List.append_inj same lengths
    exact ⟨fronts, (List.cons.inj backs).2⟩
  · rintro ⟨rfl, rfl⟩
    rfl

namespace Naming

/-- A webhook configuration of a revision whose package is found, with a kind and a name that are
texts, where the kind in lower case holds no dash. -/
structure Derives (settings : Settings) (label definition revision : Value)
    (kind package : String) : Prop where
  configuration : isConfiguration definition = .ok true
  found : ∃ reference, PackageSearch.run settings label revision = .ok (.found reference) ∧
    reference.kind = .text kind ∧ reference.name = .text package
  undivided : '-' ∉ (Text.lowerCase kind).toList

variable {settings : Settings} {label definition revision : Value} {kind package : String}

/-- The name that a lead, a kind in lower case and a package make. -/
def text (lead kind package : String) : String :=
  lead ++ "-" ++ kind ++ "-" ++ package

/-- Names with one lead are equal exactly if their parts are. -/
theorem text_inj (lead : String) {kind kind' : String} (package package' : String)
    (undivided : '-' ∉ kind.toList) (undivided' : '-' ∉ kind'.toList) :
    text lead kind package = text lead kind' package' ↔ kind = kind' ∧ package = package' := by
  have dash : "-".toList = ['-'] := rfl
  rw [text, text, ← String.toList_inj]
  simp only [String.toList_append, dash, List.append_assoc, List.cons_append, List.nil_append,
    List.append_cancel_left_eq, List.cons.injEq, true_and]
  rw [append_cons_inj undivided undivided', String.toList_inj, String.toList_inj]

-- With a dash in the kind the parts run into one another.
example : text "crossplane" "a-b" "c" = text "crossplane" "a" "b-c" := rfl

/-- A name is derived if the declared one can be read. It is made of the lead and what is found of
the package, and the declared one is no part of it. -/
theorem Derives.run_eq_ok_iff (derives : Derives settings label definition revision kind package)
    (lead : Value) (naming : Naming) : run settings lead label definition revision = .ok naming ↔
      ∃ fields, definition.fieldOrEmpty "metadata" = .ok (.object fields) ∧
        naming = derived (Fields.get fields "name")
          (text (lead.orElse (settings.value .webhookNamePrefix)).display (Text.lowerCase kind)
            package) := by
  obtain ⟨reference, found, typed, named⟩ := derives.found
  simp only [run, derives.configuration, found, build, typed, named, ok_bind, Bool.not_true,
    Bool.false_eq_true, if_false, bind_eq_ok_iff, Value.field_eq_ok_iff]
  constructor
  · rintro ⟨_, read, _, ⟨fields, rfl, rfl⟩, success⟩
    exact ⟨fields, read, (Except.ok.inj success).symm⟩
  · rintro ⟨fields, read, rfl⟩
    exact ⟨_, read, _, ⟨fields, rfl, rfl⟩, rfl⟩

/-- The package of a revision is the first of its owners under the name that its label gives, at
whatever position and whatever follows it. A webhook configuration is given a name exactly if its
metadata is an object or does not count as given. Two of them are given one name exactly if their
packages are of one kind, up to case, and of one name. -/
theorem derived_names_eq_iff (settings : Settings) (lead : Value) :
    (∀ label revision reference,
      PackageSearch.run settings label revision = .ok (.found reference) ↔
        ∃ package entries, PackageSearch.Labels settings label revision package entries ∧
          PackageSearch.IsFirst package entries reference) ∧
    (∀ label definition revision kind package,
      Derives settings label definition revision kind package →
        ((∃ naming, run settings lead label definition revision = .ok naming) ↔
          ∃ fields, definition.fieldOrEmpty "metadata" = .ok (.object fields))) ∧
    ∀ label label' first second revision revision' kind kind' package package',
      Derives settings label first revision kind package →
      Derives settings label' second revision' kind' package' →
      ∀ naming naming', run settings lead label first revision = .ok naming →
        run settings lead label' second revision' = .ok naming' →
        (naming.name = naming'.name ↔
          Text.lowerCase kind = Text.lowerCase kind' ∧ package = package') := by
  refine ⟨fun _ _ _ => PackageSearch.run_eq_found_iff, ?_, ?_⟩
  · intro label definition revision kind package derives
    simp only [derives.run_eq_ok_iff]
    constructor
    · rintro ⟨_, fields, read, _⟩
      exact ⟨fields, read⟩
    · rintro ⟨fields, read⟩
      exact ⟨_, fields, read, rfl⟩
  · intro label label' first second revision revision' kind kind' package package' derives derives'
      naming naming' success success'
    obtain ⟨_, _, rfl⟩ := (derives.run_eq_ok_iff lead naming).mp success
    obtain ⟨_, _, rfl⟩ := (derives'.run_eq_ok_iff lead naming').mp success'
    rw [name, name, Value.text.injEq, text_inj _ _ _ derives.undivided derives'.undivided]

def declaring (name : String) : Value :=
  .object [("apiVersion", .text "admissionregistration.k8s.io/v1"),
    ("kind", .text "ValidatingWebhookConfiguration"), ("metadata", .object [("name", .text name)])]

def ownedBy (entries : List Value) : Value :=
  .object [("metadata", .object [("labels", .object [("pkg.crossplane.io/package", .text "a-b")]),
    ("ownerReferences", .list entries)])]

def ofKind (kind : String) : Value :=
  .object [("kind", .text kind), ("name", .text "a-b")]

/-- A revision with owners without a name before its package and what is no owner behind it. -/
def lateOwned : Value :=
  ownedBy [.object [], .object [("kind", .text "Provider")], ofKind "Provider", .null]

/-- A revision with a second owner under the name of its package. -/
def twiceOwned : Value :=
  ownedBy [ofKind "PROVIDER", ofKind "Function"]

/-- Two revisions write the kind of their package differently, and their configurations get one
name. -/
theorem derived_names_eq_iff_dashed :
    Derives .defaults .null (declaring "x") lateOwned "Provider" "a-b" ∧
    Derives .defaults .null (declaring "y") twiceOwned "PROVIDER" "a-b" ∧
    ∃ naming naming', run .defaults .null .null (declaring "x") lateOwned = .ok naming ∧
      run .defaults .null .null (declaring "y") twiceOwned = .ok naming' ∧
      naming.name = naming'.name := by
  have derives : Derives .defaults .null (declaring "x") lateOwned "Provider" "a-b" :=
    ⟨rfl, ⟨_, rfl, rfl, rfl⟩, by decide +kernel⟩
  have derives' : Derives .defaults .null (declaring "y") twiceOwned "PROVIDER" "a-b" :=
    ⟨rfl, ⟨_, rfl, rfl, rfl⟩, by decide +kernel⟩
  obtain ⟨_, named, collide⟩ := derived_names_eq_iff .defaults .null
  obtain ⟨naming, success⟩ := (named _ _ _ _ _ derives).mpr ⟨_, rfl⟩
  obtain ⟨naming', success'⟩ := (named _ _ _ _ _ derives').mpr ⟨_, rfl⟩
  have same := collide _ _ _ _ _ _ _ _ _ _ derives derives' naming naming' success success'
  have kinds : Text.lowerCase "Provider" = Text.lowerCase "PROVIDER" := by decide +kernel
  exact ⟨derives, derives', naming, naming', success, success', same.mpr ⟨kinds, rfl⟩⟩

end Naming

end ManifestOwnership.Webhook

import Phrasebook.Modifier.Custom
import Phrasebook.Proofs.Expansion.Stepwise
import Phrasebook.Proofs.Lint.Agreement
import Phrasebook.Shared

/-!
# Expansions with the shared registry see a snapshot

While an expansion with the shared registry goes on, the modifiers that it asks may change that
registry. `expandStepwise` is the expansion as it happens: it copies the registry, and from then on
modifiers act on the shared one, each at the moment when it is asked and in any way it likes, while
the expansion asks the copy. What comes out is the expansion with the registry as it was at the
start, whatever the modifiers do, and what is left is the shared registry after all that they did,
in the order in which they were asked (`expand_sees_snapshot`). In a session of registrations and
expansions, each expansion therefore sees just the registrations made before it began, by hand or
by modifiers.
-/

namespace Phrasebook

/-! ### Registrations in order -/

namespace Registry

/-- Registrations are made one after another. -/
theorem registerAll_append (r : Registry) (first others : List (String × Modifier)) :
    r.registerAll (first ++ others) = (r.registerAll first).registerAll others :=
  List.foldl_append

/-- Lists of registrations made one after the other are one list of registrations. -/
theorem registerAll_flatMap {α : Type} (entries : α → List (String × Modifier)) (r : Registry)
    (xs : List α) :
    r.registerAll (xs.flatMap entries) = xs.foldl (fun r x => r.registerAll (entries x)) r := by
  induction xs generalizing r with
  | nil => rfl
  | cons x rest ih => rw [List.flatMap_cons, registerAll_append, ih, List.foldl_cons]

/-- After several registrations, a name has the modifier that was registered last under it, or the
one that it had before. -/
theorem get?_registerAll_eq (r : Registry) (entries : List (String × Modifier)) (name : String) :
    (r.registerAll entries).get? name = (entries.reverse.lookup name).or (r.get? name) := by
  have hmodifiers : (r.registerAll entries).modifiers =
      entries.foldl (fun m e => m.insert e.1 e.2) r.modifiers :=
    (List.foldl_hom Registry.modifiers fun _ _ => rfl).symm
  unfold get?
  rw [hmodifiers, Keyed.get?_foldl_insert]

end Registry

namespace Shared

/-! ### One expansion -/

/-- The modifiers that an expansion asks, none without a template or without parameters. -/
def asked (shared : Registry) (text : Option String) (params : Option Params) :
    List (Modifier × Call) :=
  match text, params with
  | some text, some params => (Setting.mk shared params).askedByTemplate (Template.parse text)
  | _, _ => []

/-- An expansion as it happens: the expansion asks the registry as it was when it began, and its
modifiers act on the one that is shared. -/
def expandStepwise (act : Modifier → Call → Registry → Registry) (text alt : Option String)
    (params : Option Params) (shared : Registry) : Option String × Registry :=
  match text, params with
  | none, _ => (alt, shared)
  | some text, none => (some text, shared)
  | some text, some params =>
    let (result, world) :=
      (Stepwise.expandTemplate ⟨shared, params⟩ act (Template.parse text)).run ⟨[], shared⟩
    match result with
    | .ok expanded => (some expanded, world.host)
    | .error _ => (alt, world.host)

/-- A modifier registers in the shared registry what it installs. -/
def register (m : Modifier) (call : Call) (shared : Registry) : Registry :=
  shared.registerAll (m.installs call)

/-- A stepwise expansion returns what the registry it began with expands to, and leaves what the
actions of the invoked modifiers made of the shared one. -/
theorem expandStepwise_eq (act : Modifier → Call → Registry → Registry) (text alt : Option String)
    (params : Option Params) (shared : Registry) :
    expandStepwise act text alt params shared =
      (shared.expand text alt params,
        (asked shared text params).foldl (fun host a => act a.1 a.2 host) shared) := by
  cases text with
  | none => rfl
  | some text =>
    cases params with
    | none => rfl
    | some params =>
      have htemplate := Stepwise.expandTemplate_eq ⟨shared, params⟩ act ⟨[], shared⟩
        (Template.parse text)
      have htry : shared.tryExpand text params =
          ((Setting.mk shared params).expandTemplate (Template.parse text)).result := rfl
      rw [Registry.expand_eq_of_tryExpand, htry]
      simp only [expandStepwise, htemplate]
      cases ((Setting.mk shared params).expandTemplate (Template.parse text)).result <;> rfl

/-- What an expansion installs is what the modifiers install that it asks. -/
theorem installed_runExpand (shared : Registry) (text alt : Option String)
    (params : Option Params) :
    (shared.runExpand text alt params).installed =
      (asked shared text params).flatMap fun a => a.1.installs a.2 := by
  cases text with
  | none => rfl
  | some text =>
    cases params with
    | none => rfl
    | some params =>
      have hinstalled := (Setting.mk shared params).installed_expandTemplate (Template.parse text)
      rw [Registry.runExpand, Run.installed_bind, Setting.expandText, hinstalled]
      cases ((Setting.mk shared params).expandTemplate (Template.parse text)).result <;>
        exact List.append_nil _

/-- An expansion with the shared registry is the expansion as it happens, with modifiers that
register what they install. -/
theorem expand_eq_expandStepwise (shared : Registry) (text alt : Option String)
    (params : Option Params) :
    Shared.expand shared text alt params = expandStepwise register text alt params shared := by
  rw [expandStepwise_eq, Shared.expand, installed_runExpand, Registry.registerAll_flatMap]
  rfl

/-! ### Sessions -/

/-- What is done with the shared registry. -/
inductive Step where
  | register (name : String) (m : Modifier)
  | expand (text alt : Option String) (params : Option Params)

/-- The registrations that a step makes: its own, or those of the modifiers that it asks. -/
def Step.registrations (shared : Registry) : Step → List (String × Modifier)
  | .register name m => [(name, m)]
  | .expand text _ params => (asked shared text params).flatMap fun a => a.1.installs a.2

/-- The registrations that several steps make, each in the registry that the steps before it
left. -/
def made (shared : Registry) : List Step → List (String × Modifier)
  | [] => []
  | step :: rest =>
    step.registrations shared ++ made (shared.registerAll (step.registrations shared)) rest

/-- Several steps one after the other: the texts of the expansions among them, and the shared
registry that is left. -/
def session (shared : Registry) : List Step → List (Option String) × Registry
  | [] => ([], shared)
  | .register name m :: rest => session (shared.register name m) rest
  | .expand text alt params :: rest =>
    let (answer, between) := expandStepwise register text alt params shared
    let (others, last) := session between rest
    (answer :: others, last)

/-- Where the actions are registrations, those of the invoked modifiers are left behind. -/
theorem expandStepwise_register_eq (text alt : Option String) (params : Option Params)
    (shared : Registry) :
    expandStepwise register text alt params shared =
      (shared.expand text alt params,
        shared.registerAll ((Step.expand text alt params).registrations shared)) := by
  rw [← expand_eq_expandStepwise, Shared.expand, installed_runExpand]
  rfl

/-- A session that begins with an expansion: its text, and then the session in the registry that the
modifiers left. -/
theorem session_expand (text alt : Option String) (params : Option Params) (shared : Registry)
    (rest : List Step) :
    let between := shared.registerAll ((Step.expand text alt params).registrations shared)
    session shared (.expand text alt params :: rest) =
      (shared.expand text alt params :: (session between rest).1, (session between rest).2) := by
  intro between
  rw [session, expandStepwise_register_eq]

/-- A session of two parts goes on in the registry that the first part left. -/
theorem session_append (shared : Registry) (before later : List Step) :
    session shared (before ++ later) =
      ((session shared before).1 ++
          (session (shared.registerAll (made shared before)) later).1,
        (session (shared.registerAll (made shared before)) later).2) := by
  induction before generalizing shared with
  | nil => rfl
  | cons step rest ih =>
    cases step with
    | register name m => exact ih (shared.register name m)
    | expand text alt params =>
      rw [List.cons_append, session_expand, session_expand, made, Registry.registerAll_append, ih]
      rfl

/-- An expansion with the shared registry yields the expansion with the registry as it was when it
began, whatever the modifiers that it asks do to the shared one meanwhile; what is left is that
registry after all that they did, in the order in which they were asked. `Shared.expand` is this
expansion for modifiers that register what they install. So each expansion of a session is one with
the registrations that were made before it began, the last one of a name counting. -/
theorem expand_sees_snapshot (shared : Registry) (text alt : Option String)
    (params : Option Params) :
    (∀ act : Modifier → Call → Registry → Registry,
      expandStepwise act text alt params shared =
        (shared.expand text alt params,
          (asked shared text params).foldl (fun host a => act a.1 a.2 host) shared)) ∧
    Shared.expand shared text alt params = expandStepwise register text alt params shared ∧
    (Shared.expand shared text alt params).2 =
      shared.registerAll ((asked shared text params).flatMap fun a => a.1.installs a.2) ∧
    ∀ before later : List Step,
      let seen := shared.registerAll (made shared before)
      (session shared (before ++ .expand text alt params :: later)).1 =
        (session shared before).1 ++ seen.expand text alt params ::
          (session (Shared.expand seen text alt params).2 later).1 ∧
      ∀ name, seen.get? name =
        ((made shared before).reverse.lookup name).or (shared.get? name) := by
  refine ⟨fun act => expandStepwise_eq act text alt params shared,
    expand_eq_expandStepwise shared text alt params, ?_, fun before later => ⟨?_, ?_⟩⟩
  · rw [expand_eq_expandStepwise, expandStepwise_register_eq]
    rfl
  · rw [session_append, session_expand, expand_eq_expandStepwise, expandStepwise_register_eq]
  · exact Registry.get?_registerAll_eq shared (made shared before)

/-- A modifier that replaces the default one is asked by the first block; the second block still
hears the default modifier from before, and the next expansion the new one. -/
example :
    (session (Registry.builtin.register "swap" (.installing "default"))
      [.expand (some ("@\x7bref=n||modi=mod=swap:val=0:text=first \x7d" ++
          "@\x7bref=n||modi=mod=gone:val=0:text=second\x7d")) none (some ∅),
        .expand (some "@\x7bref=n||modi=mod=gone:val=0:text=second\x7d") none (some ∅)]).1 =
      [some "first -", some "late"] := by
  decide +kernel

end Shared

end Phrasebook

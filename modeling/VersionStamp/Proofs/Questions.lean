import Mathlib.Tactic.Choose
import VersionStamp.Proofs.Dialogue
import VersionStamp.Proofs.Release.Inputs

/-! How a release is asked for.

A script has one outcome for each question, an answer or a failure. The questions come in
one order, and the first failure is the end of the dialogue, whatever was answered before it.
The answers are looked at when all four components are there, and the number that the
prefixed scheme asks for when it comes.
-/

namespace VersionStamp

open VersionStamp.Release VersionStamp.Text

/-- What a script has for the question of a part. One that has run out is closed. -/
def World.scripted (world : World) (part : Part) : Except PromptFailure String :=
  world.answers[part.index]?.getD (.error .closed)

namespace Dialogue

variable {α : Type} {part : Part} {failure : PromptFailure}
  {outcome : Part → Except PromptFailure String} {next : String → Dialogue α}

/-- What is asked when every part has an outcome of its own, and what comes of it. -/
def play (outcome : Part → Except PromptFailure String) :
    Dialogue α → List Part × Except DialogueFailure α
  | .done result => ([], result.mapError .version)
  | .ask part next =>
      match outcome part with
      | .error failure => ([part], .error (.prompt failure))
      | .ok input => (part :: (play outcome (next input)).1, (play outcome (next input)).2)

theorem play_of_failed (failed : outcome part = .error failure) (next : String → Dialogue α) :
    play outcome (.ask part next) = ([part], .error (.prompt failure)) := by
  rw [play, failed]

theorem play_of_answered {input : String} (answered : outcome part = .ok input)
    (next : String → Dialogue α) :
    play outcome (.ask part next) =
      (part :: (play outcome (next input)).1, (play outcome (next input)).2) := by
  rw [play, answered]

theorem play_failed (dialogue : Dialogue α) (asked : part ∈ (dialogue.play outcome).1)
    (failed : outcome part = .error failure) :
    (dialogue.play outcome).1.getLast? = some part ∧
      (dialogue.play outcome).2 = .error (.prompt failure) := by
  induction dialogue with
  | done result => cases asked
  | ask first next ih =>
      cases answered : outcome first with
      | error cause =>
          rw [play_of_failed answered] at asked ⊢
          obtain rfl := List.mem_singleton.mp asked
          obtain rfl := Except.error.inj (failed.symm.trans answered)
          exact ⟨rfl, rfl⟩
      | ok input =>
          rw [play_of_answered answered] at asked ⊢
          have later : part ∈ ((next input).play outcome).1 := by
            refine (List.mem_cons.mp asked).resolve_left ?_
            rintro rfl
            rw [answered] at failed
            cases failed
          obtain ⟨last, result⟩ := ih input later
          refine ⟨?_, result⟩
          rw [List.getLast?_cons, last]
          rfl

theorem answered_of_play {result : α} (dialogue : Dialogue α)
    (ended : (dialogue.play outcome).2 = .ok result) (asked : part ∈ (dialogue.play outcome).1) :
    ∃ input, outcome part = .ok input := by
  cases answered : outcome part with
  | ok input => exact ⟨input, rfl⟩
  | error failure =>
      rw [(play_failed dialogue asked answered).2] at ended
      cases ended

theorem mem_play_ask (first : Part) :
    part ∈ (play outcome (.ask first next)).1 ↔
      part = first ∨ ∃ input, outcome first = .ok input ∧ part ∈ ((next input).play outcome).1 := by
  cases answered : outcome first with
  | error failure => simp [play_of_failed answered]
  | ok input => simp [play_of_answered answered]

/-- Every question is the one that comes next among the parts, from a certain place on. -/
inductive InOrder : Nat → Dialogue α → Prop where
  | done {count : Nat} (result : Except ReleaseFailure α) : InOrder count (.done result)
  | ask (part : Part) {next : String → Dialogue α}
      (rest : ∀ input, InOrder (part.index + 1) (next input)) : InOrder part.index (.ask part next)

theorem drop_index (part : Part) :
    Part.all.drop part.index = part :: Part.all.drop (part.index + 1) := by
  cases part <;> rfl

theorem InOrder.asked_begins {count : Nat} {dialogue : Dialogue α} (ordered : dialogue.InOrder count)
    (outcome : Part → Except PromptFailure String) :
    (dialogue.play outcome).1 <+: Part.all.drop count := by
  induction ordered with
  | done result => exact List.nil_prefix
  | @ask part next _ ih =>
      rw [drop_index]
      cases answered : outcome part with
      | error failure =>
          rw [play_of_failed answered]
          exact List.prefix_append [part] _
      | ok input =>
          rw [play_of_answered answered]
          exact (List.prefix_cons_inj part).mpr (ih input)

/-- A script answers the questions one after another. -/
theorem InOrder.perform_hold {count : Nat} {dialogue : Dialogue α} (ordered : dialogue.InOrder count)
    (world : World)
    (scripted : ∀ part : Part, count ≤ part.index →
      outcome part = world.answers[part.index - count]?.getD (.error .closed)) :
    world.perform (hold World.answer dialogue) = ((dialogue.play outcome).2,
      { world with
        asked := world.asked ++ (dialogue.play outcome).1
        answers := world.answers.drop (dialogue.play outcome).1.length }) := by
  induction ordered generalizing world with
  | done result =>
      simp only [play, List.append_nil, List.length_nil, List.drop_zero]
      rfl
  | @ask part next _ ih =>
      have first := scripted part (Nat.le_refl _)
      rw [Nat.sub_self] at first
      rw [hold, World.perform_bind, World.perform_adapt, World.perform_answer]
      cases script : world.answers with
      | nil =>
          rw [script] at first
          rw [play_of_failed first]
          rfl
      | cons answer answers =>
          obtain rfl : answer = outcome part := by simpa [script] using first.symm
          cases answered : outcome part with
          | error failure =>
              rw [play_of_failed answered]
              rfl
          | ok input =>
              -- what is left of the script answers the parts behind this one
              have left (later : Part) (behind : part.index + 1 ≤ later.index) :
                  outcome later =
                    answers[later.index - (part.index + 1)]?.getD (.error .closed) := by
                have place : later.index - part.index =
                    later.index - (part.index + 1) + 1 := by omega
                rw [scripted later (by omega), script, place, List.getElem?_cons_succ]
              have rest := ih input { world with asked := world.asked ++ [part], answers } left
              rw [play_of_answered answered]
              refine rest.trans ?_
              simp only [List.append_assoc, List.singleton_append, List.length_cons,
                List.drop_succ_cons]

variable {settings : BuildNumberSettings}

/-- What follows once the components are checked. -/
def goOn (settings : BuildNumberSettings) : Except ReleaseFailure Components → Dialogue Release
  | .error failure => .done (.error failure)
  | .ok components => finish settings components

theorem release_eq (settings : BuildNumberSettings) :
    release settings =
      .ask .major fun major => .ask .minor fun minor => .ask .patch fun patch =>
        .ask .material fun material =>
          goOn settings (Components.ofInputs { major, minor, patch, material }) := by
  refine congrArg (ask .major) (funext fun major => ?_)
  refine congrArg (ask .minor) (funext fun minor => ?_)
  refine congrArg (ask .patch) (funext fun patch => ?_)
  refine congrArg (ask .material) (funext fun material => ?_)
  cases Components.ofInputs { major, minor, patch, material } with
  | error failure => rfl
  | ok components => rfl

theorem inOrder_goOn (settings : BuildNumberSettings)
    (checked : Except ReleaseFailure Components) : (goOn settings checked).InOrder 4 := by
  cases checked with
  | error failure => exact .done _
  | ok components =>
      rw [goOn, finish]
      split
      · exact .done _
      · exact .done _
      · exact .ask .buildNumber fun _ => .done _

theorem inOrder_release (settings : BuildNumberSettings) : (release settings).InOrder 0 := by
  rw [release_eq]
  exact .ask .major fun _ => .ask .minor fun _ => .ask .patch fun _ => .ask .material fun _ =>
    inOrder_goOn settings _

section Release

variable {texts : Part → String} {checked : Except ReleaseFailure Components}

theorem play_release (answered : ∀ part ≠ .buildNumber, outcome part = .ok (texts part)) :
    (release settings).play outcome =
      (Part.all.take 4 ++ ((goOn settings (Components.ofInputs (.ofTexts texts))).play outcome).1,
        ((goOn settings (Components.ofInputs (.ofTexts texts))).play outcome).2) := by
  obtain ⟨major, minor, patch, material⟩ := Part.forall_components.mp answered
  simp only [release_eq, play_of_answered major, play_of_answered minor, play_of_answered patch,
    play_of_answered material, Components.ofTexts, Part.all, List.take_succ_cons, List.take_zero,
    List.cons_append, List.nil_append]

theorem play_release_of_accepted
    (accepted : ∀ part ≠ .buildNumber, outcome part = .ok (texts part) ∧ IsAccepted (texts part)) :
    (release settings).play outcome =
      let rest := finish settings (.ofTexts fun part => trim (texts part))
      (Part.all.take 4 ++ (rest.play outcome).1, (rest.play outcome).2) := by
  have checked := Components.ofInputs_eq_ok_iff.mpr
    ⟨fun part other => (accepted part other).2, rfl⟩
  rw [play_release fun part other => (accepted part other).1, checked]
  rfl

/-- A component is asked for once all parts before it have been answered. -/
theorem mem_play_release (component : part ≠ .buildNumber) :
    part ∈ ((release settings).play outcome).1 ↔
      ∀ earlier : Part, earlier.index < part.index → ∃ input, outcome earlier = .ok input := by
  have no_more (checked : Except ReleaseFailure Components) :
      part ∉ ((goOn settings checked).play outcome).1 := by
    intro member
    have last := ((inOrder_goOn settings checked).asked_begins outcome).subset member
    exact component (List.mem_singleton.mp last)
  simp only [← Part.mem_take_index, release_eq, mem_play_ask, no_more, and_false, exists_false,
    or_false]
  cases part with
  | major => simp [Part.all, Part.index]
  | minor => simp [Part.all, Part.index]
  | patch => simp [Part.all, Part.index]
  | material => simp [Part.all, Part.index]
  | buildNumber => exact absurd rfl component

theorem mem_play_finish {components : Components} :
    .buildNumber ∈ ((finish settings components).play outcome).1 ↔
      settings.scheme = .prefixed := by
  rw [finish]
  split
  next scheme => simp [play, scheme]
  next scheme => simp [play, scheme]
  next scheme => simp [mem_play_ask, scheme]

theorem mem_play_goOn : .buildNumber ∈ ((goOn settings checked).play outcome).1 ↔
    settings.scheme = .prefixed ∧ ∃ components, checked = .ok components := by
  cases checked with
  | error failure => simp [goOn, play]
  | ok components => simp [goOn, mem_play_finish]

/-- The build number is asked for under one scheme only, once the components are accepted. -/
theorem buildNumber_mem_play_release :
    .buildNumber ∈ ((release settings).play outcome).1 ↔
      settings.scheme = .prefixed ∧
        ∀ part ≠ .buildNumber, ∃ input, outcome part = .ok input ∧ IsAccepted input := by
  have component : .buildNumber ∉ Part.all.take 4 := by decide
  constructor
  · intro member
    have asked := member
    simp only [release_eq, mem_play_ask, reduceCtorEq, false_or] at asked
    obtain ⟨major, first, minor, second, patch, third, material, fourth, _⟩ := asked
    have inputs : ∀ part ≠ .buildNumber, ∃ input, outcome part = .ok input :=
      Part.forall_components.mpr ⟨⟨major, first⟩, ⟨minor, second⟩, ⟨patch, third⟩,
        ⟨material, fourth⟩⟩
    choose! texts answered using inputs
    rw [play_release answered, List.mem_append, or_iff_right component, mem_play_goOn] at member
    obtain ⟨scheme, components, checked⟩ := member
    have accepted := (Components.ofInputs_eq_ok_iff.mp checked).1
    exact ⟨scheme, fun part other => ⟨texts part, answered part other, accepted part other⟩⟩
  · rintro ⟨scheme, inputs⟩
    choose! texts accepted using inputs
    rw [play_release_of_accepted accepted, List.mem_append]
    exact .inr (mem_play_finish.mpr scheme)

/-- How the rule is found that the scheme stands for. -/
inductive Resolves (settings : BuildNumberSettings)
    (outcome : Part → Except PromptFailure String) : Rule → Prop where
  | zeroPadded (scheme : settings.scheme = .zeroPadded) : Resolves settings outcome .zeroPadded
  | arithmetic (scheme : settings.scheme = .arithmetic) : Resolves settings outcome .arithmetic
  | prefixed {input : String} (scheme : settings.scheme = .prefixed)
      (answered : outcome .buildNumber = .ok input) (accepted : IsAccepted input) :
      Resolves settings outcome (.prefixed settings.lead (trim input))

theorem play_finish {rule : Rule} {components : Components}
    (resolved : Resolves settings outcome rule) :
    ((finish settings components).play outcome).2 =
      (Release.derive components rule).mapError .version := by
  cases resolved with
  | zeroPadded scheme => rw [finish, scheme]; rfl
  | arithmetic scheme => rw [finish, scheme]; rfl
  | prefixed scheme answered accepted =>
      rw [finish, scheme]
      simp only [play_of_answered answered, numeral_of_accepted _ accepted]
      rfl

theorem play_finish_of_refused {components : Components} {input : String}
    (scheme : settings.scheme = .prefixed) (answered : outcome .buildNumber = .ok input)
    (refused : ¬ IsAccepted input) :
    ((finish settings components).play outcome).2 =
      .error (.version (.notANumber .buildNumber (trim input))) := by
  rw [finish, scheme]
  simp only [play_of_answered answered, numeral_of_refused _ refused]
  rfl

theorem resolved_of_finish {components : Components} {made : Release}
    (ended : ((finish settings components).play outcome).2 = .ok made) :
    ∃ rule, Resolves settings outcome rule ∧ Release.derive components rule = .ok made := by
  have resolved : ∃ rule, Resolves settings outcome rule := by
    cases scheme : settings.scheme with
    | zeroPadded => exact ⟨_, .zeroPadded scheme⟩
    | arithmetic => exact ⟨_, .arithmetic scheme⟩
    | prefixed =>
        obtain ⟨input, typed⟩ := answered_of_play _ ended (mem_play_finish.mpr scheme)
        refine ⟨_, .prefixed scheme typed ?_⟩
        by_contra refused
        rw [play_finish_of_refused scheme typed refused] at ended
        cases ended
  obtain ⟨rule, resolved⟩ := resolved
  rw [play_finish resolved, mapError_eq_ok] at ended
  exact ⟨rule, resolved, ended⟩

theorem answered_of_released {made : Release}
    (ended : ((release settings).play outcome).2 = .ok made) :
    ∀ part ≠ .buildNumber, ∃ input, outcome part = .ok input := by
  have asked (count : Nat) : ∀ part ≠ .buildNumber, part.index = count →
      part ∈ ((release settings).play outcome).1 := by
    induction count using Nat.strongRecOn with
    | _ count ih =>
        rintro part component rfl
        refine (mem_play_release component).mpr fun earlier before => ?_
        have other : earlier ≠ .buildNumber := by
          rintro rfl
          cases part <;> simp [Part.index] at before
        exact answered_of_play _ ended (ih earlier.index before earlier other rfl)
  exact fun part component => answered_of_play _ ended (asked part.index part component rfl)

theorem resolved_of_released {made : Release}
    (ended : ((release settings).play outcome).2 = .ok made) :
    ∃ (texts : Part → String) (rule : Rule),
      (∀ part ≠ .buildNumber, outcome part = .ok (texts part) ∧ IsAccepted (texts part)) ∧
        Resolves settings outcome rule ∧
        Release.derive (.ofTexts fun part => trim (texts part)) rule = .ok made := by
  have inputs := answered_of_released ended
  choose! texts answered using inputs
  rw [play_release answered] at ended
  cases checked : Components.ofInputs (.ofTexts texts) with
  | error failure =>
      rw [checked] at ended
      cases ended
  | ok components =>
      obtain ⟨accepted, rfl⟩ := Components.ofInputs_eq_ok_iff.mp checked
      rw [checked] at ended
      obtain ⟨rule, resolved, derived⟩ := resolved_of_finish ended
      exact ⟨texts, rule, fun part other => ⟨answered part other, accepted part other⟩,
        resolved, derived⟩

end Release

/-- How a dialogue for a release goes when every question has an outcome. The questions come
in order and up to the first failure, which is the result even after an input that would have
been refused. Of four inputs the first that is not accepted is reported, and only when all
are accepted the prefixed scheme asks for its suffix. A result without a failure is the
release that is derived from the trimmed inputs. -/
structure Interview (settings : BuildNumberSettings)
    (outcome : Part → Except PromptFailure String) (asked : List Part)
    (result : Except DialogueFailure Release) : Prop where
  inOrder : asked <+: Part.all
  distinct : asked.Nodup
  component : ∀ part ≠ .buildNumber, part ∈ asked ↔
    ∀ earlier : Part, earlier.index < part.index → ∃ input, outcome earlier = .ok input
  buildNumber : .buildNumber ∈ asked ↔ settings.scheme = .prefixed ∧
    ∀ part ≠ .buildNumber, ∃ input, outcome part = .ok input ∧ IsAccepted input
  failed : ∀ part ∈ asked, ∀ failure, outcome part = .error failure →
    asked.getLast? = some part ∧ result = .error (.prompt failure)
  refused : ∀ texts : Part → String, (∀ part ≠ .buildNumber, outcome part = .ok (texts part)) →
    ∀ part ≠ .buildNumber, ¬ IsAccepted (texts part) →
      (∀ earlier : Part, earlier.index < part.index → IsAccepted (texts earlier)) →
      result = .error (.version (.notANumber part (trim (texts part))))
  refusedSuffix : .buildNumber ∈ asked → ∀ input, outcome .buildNumber = .ok input →
    ¬ IsAccepted input → result = .error (.version (.notANumber .buildNumber (trim input)))
  derived : ∀ (texts : Part → String) (rule : Rule),
    (∀ part ≠ .buildNumber, outcome part = .ok (texts part) ∧ IsAccepted (texts part)) →
      Resolves settings outcome rule →
      result = (Release.derive (.ofTexts fun part => trim (texts part)) rule).mapError .version
  released : ∀ made, result = .ok made → ∃ (texts : Part → String) (rule : Rule),
    (∀ part ≠ .buildNumber, outcome part = .ok (texts part) ∧ IsAccepted (texts part)) ∧
      Resolves settings outcome rule ∧
      Release.derive (.ofTexts fun part => trim (texts part)) rule = .ok made

/-- A script answers question by question, and this is how it goes whatever it has in it. -/
theorem interview_of_release (settings : BuildNumberSettings) (world : World) :
    ∃ asked result,
      world.perform (hold World.answer (release settings)) =
        (result, { world with
          asked := world.asked ++ asked
          answers := world.answers.drop asked.length }) ∧
      Interview settings world.scripted asked result := by
  have ordered := inOrder_release settings
  have order := ordered.asked_begins world.scripted
  have held : world.perform (hold World.answer (release settings)) =
      (((release settings).play world.scripted).2, { world with
        asked := world.asked ++ ((release settings).play world.scripted).1
        answers := world.answers.drop ((release settings).play world.scripted).1.length }) :=
    ordered.perform_hold world fun _ _ => rfl
  refine ⟨_, _, held, ?_⟩
  exact {
    inOrder := order
    distinct := order.sublist.nodup (by decide)
    component := fun _ => mem_play_release
    buildNumber := buildNumber_mem_play_release
    failed := fun _ asked _ => play_failed _ asked
    refused := fun texts answered part component refused first => by
      rw [play_release answered, Components.ofInputs_of_refused component refused first]
      rfl
    refusedSuffix := fun asked input answered refused => by
      obtain ⟨scheme, inputs⟩ := buildNumber_mem_play_release.mp asked
      choose! texts accepted using inputs
      rw [play_release_of_accepted accepted]
      exact play_finish_of_refused scheme answered refused
    derived := fun texts rule accepted resolved => by
      rw [play_release_of_accepted accepted]
      exact play_finish resolved
    released := fun _ => resolved_of_released }

/-- One script has a component that is no number before its failure. The other one has blanks
of several kinds around five numerals. -/
theorem interview_of_release_to_its_end :
    let settings : BuildNumberSettings := { scheme := .prefixed, lead := "05" }
    let stopped : World :=
      { files := .empty, directory := []
        answers := [.ok "x", .error (.refused "gone"), .ok "3"] }
    let typed : World :=
      { files := .empty, directory := []
        answers :=
          [.ok " 1", .ok "2\t", .ok "\r03\n", .ok "\u30004\u2028", .ok "017 ", .ok "9"] }
    (∃ after, stopped.perform (hold World.answer (release settings)) =
      (.error (.prompt (.refused "gone")), after) ∧ after.asked.getLast? = some .minor) ∧
    ∃ after, typed.perform (hold World.answer (release settings)) =
      (.ok ⟨⟨"1", "2", "03", "4"⟩, "05017"⟩, after) ∧ .buildNumber ∈ after.asked := by
  intro settings stopped typed
  constructor
  · obtain ⟨asked, result, held, interview⟩ := interview_of_release settings stopped
    have second : .minor ∈ asked := by
      refine (interview.component .minor nofun).mpr fun earlier before => ?_
      cases earlier <;> simp [Part.index] at before
      exact ⟨"x", rfl⟩
    obtain ⟨last, rfl⟩ := interview.failed .minor second (.refused "gone") rfl
    exact ⟨_, held, last⟩
  · obtain ⟨asked, result, held, interview⟩ := interview_of_release settings typed
    let texts (part : Part) : String :=
      [" 1", "2\t", "\r03\n", "\u30004\u2028", "017 "].getD part.index ""
    have accepted : ∀ part ≠ .buildNumber,
        typed.scripted part = .ok (texts part) ∧ IsAccepted (texts part) :=
      Part.forall_components.mpr (by decide +kernel)
    have resolved : Resolves settings typed.scripted (.prefixed "05" (trim "017 ")) :=
      .prefixed rfl rfl (by decide +kernel)
    have made : result = .ok ⟨⟨"1", "2", "03", "4"⟩, "05017"⟩ :=
      (interview.derived texts _ accepted resolved).trans (by decide +kernel)
    have last : .buildNumber ∈ asked := interview.buildNumber.mpr
      ⟨rfl, fun part other => ⟨texts part, accepted part other⟩⟩
    rw [made] at held
    exact ⟨_, held, last⟩

end Dialogue

end VersionStamp

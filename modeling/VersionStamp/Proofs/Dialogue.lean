import VersionStamp.Proofs.Release.BuildNumber
import VersionStamp.Proofs.Worlds

/-! What is asked before there is a release.

A dialogue is held by answering its questions one after another. That of a release gives
one only when every question of the scheme was asked and answered with a numeral.
-/

namespace VersionStamp

open VersionStamp.Release

/-- What is asked for under a scheme. -/
def Release.Scheme.parts : Scheme → List Part
  | .zeroPadded | .arithmetic => [.major, .minor, .patch, .material]
  | .prefixed => [.major, .minor, .patch, .material, .buildNumber]

theorem World.perform_answer (world : World) (part : Part) :
    world.perform (World.answer part) =
      match world.answers with
      | [] => (.error .closed, { world with asked := world.asked ++ [part] })
      | outcome :: answers =>
          (outcome, { world with asked := world.asked ++ [part], answers }) := by
  rcases world with ⟨_, _, _, _, _, _, _ | ⟨outcome, answers⟩, _, _, _⟩
  · rfl
  · rfl

theorem Release.derive_eq_ok {components : Components} {rule : Rule} {release : Release}
    (derived : Release.derive components rule = .ok release) :
    release.components = components ∧ rule.buildNumber components = .ok release.buildNumber := by
  obtain ⟨number, done, made⟩ := bind_eq_ok.mp derived
  cases made
  exact ⟨rfl, done⟩

namespace Dialogue

variable {α : Type} {settings : BuildNumberSettings} {components : Components}
  {exchange : List (Part × String)} {release : Release}

/-- A dialogue has a result once its questions have been answered. -/
inductive Held : Dialogue α → List (Part × String) → Except ReleaseFailure α → Prop where
  | done (result : Except ReleaseFailure α) : Held (.done result) [] result
  | ask {part : Part} {next : String → Dialogue α} {input : String}
      {exchange : List (Part × String)} {result : Except ReleaseFailure α}
      (rest : Held (next input) exchange result) :
      Held (.ask part next) ((part, input) :: exchange) result

/-- A script answers all questions of a dialogue, or fails at one of them. Nothing else in
the world changes. -/
theorem hold_cases (dialogue : Dialogue α) (world : World) :
    (∃ exchange result rest, dialogue.Held exchange result ∧
      world.answers = exchange.map (fun asked => .ok asked.2) ++ rest ∧
      world.perform (hold World.answer dialogue) = (result.mapError .version,
        { world with asked := world.asked ++ exchange.map (·.1), answers := rest })) ∨
    ∃ failure asked answers, world.perform (hold World.answer dialogue) =
      (.error (.prompt failure), { world with asked, answers }) := by
  induction dialogue generalizing world with
  | done result =>
      refine .inl ⟨[], result, world.answers, .done result, rfl, ?_⟩
      simp only [List.map_nil, List.append_nil]
      rfl
  | ask part next ih =>
      rw [hold, World.perform_bind, World.perform_adapt, World.perform_answer]
      cases script : world.answers with
      | nil => exact .inr ⟨.closed, _, _, rfl⟩
      | cons outcome answers =>
          cases outcome with
          | error failure => exact .inr ⟨failure, _, _, rfl⟩
          | ok input =>
              -- the rest is held in a world that has one answer less
              rcases ih input { world with asked := world.asked ++ [part], answers } with
                ⟨exchange, result, rest, held, scripted, ended⟩ | ⟨failure, asked, left, ended⟩
              · refine .inl ⟨(part, input) :: exchange, result, rest, .ask held, ?_, ?_⟩
                · rw [List.map_cons, List.cons_append, ← scripted]
                · have order : world.asked ++ ((part, input) :: exchange).map (·.1) =
                      world.asked ++ [part] ++ exchange.map (·.1) := by
                    rw [List.append_assoc]
                    rfl
                  rw [order]
                  exact ended
              · exact .inr ⟨failure, asked, left, ended⟩

theorem held_done {result outcome : Except ReleaseFailure α} :
    (Dialogue.done result).Held exchange outcome ↔ exchange = [] ∧ result = outcome := by
  constructor
  · rintro ⟨⟩
    exact ⟨rfl, rfl⟩
  · rintro ⟨rfl, rfl⟩
    exact .done result

theorem held_ask {part : Part} {next : String → Dialogue α}
    {outcome : Except ReleaseFailure α} :
    (Dialogue.ask part next).Held exchange outcome ↔
      ∃ input rest, exchange = (part, input) :: rest ∧ (next input).Held rest outcome := by
  constructor
  · rintro ⟨⟩
    exact ⟨_, _, rfl, ‹_›⟩
  · rintro ⟨input, rest, rfl, held⟩
    exact .ask held

theorem held_finish (held : (finish settings components).Held exchange (.ok release)) :
    ∃ rule, Release.derive components rule = .ok release ∧
      ((settings.scheme = .zeroPadded ∧ rule = .zeroPadded ∧ exchange = []) ∨
        (settings.scheme = .arithmetic ∧ rule = .arithmetic ∧ exchange = []) ∨
        ∃ input suffix, settings.scheme = .prefixed ∧ rule = .prefixed settings.lead suffix ∧
          numeral .buildNumber input = .ok suffix ∧ exchange = [(.buildNumber, input)]) := by
  obtain ⟨scheme, lead⟩ := settings
  cases scheme with
  | zeroPadded =>
      obtain ⟨rfl, derived⟩ := held_done.mp held
      exact ⟨.zeroPadded, derived, .inl ⟨rfl, rfl, rfl⟩⟩
  | arithmetic =>
      obtain ⟨rfl, derived⟩ := held_done.mp held
      exact ⟨.arithmetic, derived, .inr (.inl ⟨rfl, rfl, rfl⟩)⟩
  | prefixed =>
      obtain ⟨input, rest, rfl, last⟩ := held_ask.mp held
      obtain ⟨rfl, derived⟩ := held_done.mp last
      obtain ⟨suffix, typed, derived⟩ := bind_eq_ok.mp derived
      exact ⟨.prefixed lead suffix, derived, .inr (.inr ⟨input, suffix, rfl, rfl, typed, rfl⟩)⟩

theorem held_release (held : (Dialogue.release settings).Held exchange (.ok release)) :
    ∃ inputs more, Components.ofInputs inputs = .ok release.components ∧
      (finish settings release.components).Held more (.ok release) ∧
      exchange = (.major, inputs.major) :: (.minor, inputs.minor) :: (.patch, inputs.patch) ::
        (.material, inputs.material) :: more := by
  obtain ⟨major, _, rfl, afterMajor⟩ := held_ask.mp held
  obtain ⟨minor, _, rfl, afterMinor⟩ := held_ask.mp afterMajor
  obtain ⟨patch, _, rfl, afterPatch⟩ := held_ask.mp afterMinor
  obtain ⟨material, more, rfl, last⟩ := held_ask.mp afterPatch
  cases accepted : Components.ofInputs { major, minor, patch, material } with
  | error failure =>
      rw [accepted] at last
      cases (held_done.mp last).2
  | ok components =>
      rw [accepted] at last
      obtain ⟨rule, derived, _⟩ := held_finish last
      obtain ⟨rfl, _⟩ := Release.derive_eq_ok derived
      exact ⟨{ major, minor, patch, material }, more, accepted, last, rfl⟩

/-- A release was made of the numerals that answered the questions of its scheme. -/
theorem answered_of_held (held : (Dialogue.release settings).Held exchange (.ok release)) :
    exchange.map (·.1) = settings.scheme.parts ∧
      ∀ asked ∈ exchange, ∃ text, numeral asked.1 asked.2 = .ok text := by
  obtain ⟨inputs, more, accepted, finished, rfl⟩ := held_release held
  obtain ⟨major, minor, patch, material⟩ := Components.ofInputs_eq_ok accepted
  obtain ⟨rule, _, which⟩ := held_finish finished
  rcases which with ⟨scheme, _, rfl⟩ | ⟨scheme, _, rfl⟩ | ⟨input, suffix, scheme, _, typed, rfl⟩
  · rw [scheme]
    refine ⟨rfl, ?_⟩
    simp [major, minor, patch, material]
  · rw [scheme]
    refine ⟨rfl, ?_⟩
    simp [major, minor, patch, material]
  · rw [scheme]
    refine ⟨rfl, ?_⟩
    simp [major, minor, patch, material, typed]

theorem numerals_of_held (held : (Dialogue.release settings).Held exchange (.ok release)) :
    (∀ text ∈ release.components.toList, isNumeral text.toList = true) ∧
      release.buildNumber.toList ≠ [] ∧
      (isNumeral release.buildNumber.toList = true ↔
        (settings.scheme = .prefixed → settings.lead.toList.all Char.isDigit = true)) := by
  obtain ⟨inputs, more, accepted, finished, rfl⟩ := held_release held
  have parts := Components.isNumeral_of_ofInputs accepted
  obtain ⟨rule, derived, which⟩ := held_finish finished
  have made := (Release.derive_eq_ok derived).2
  refine ⟨parts, ?_⟩
  rcases which with ⟨scheme, rfl, _⟩ | ⟨scheme, rfl, _⟩ | ⟨input, suffix, scheme, rfl, typed, _⟩
  · have digits := isNumeral_zeroPadded parts made
    simp [digits, scheme, ne_nil_of_isNumeral digits]
  · have digits := isNumeral_arithmetic parts made
    simp [digits, scheme, ne_nil_of_isNumeral digits]
  · have digits := isNumeral_of_numeral typed
    have number := isNumeral_prefixed digits made
    have text : settings.lead ++ suffix = release.buildNumber := Except.ok.inj made
    refine ⟨?_, by simp [number, scheme]⟩
    rw [← text]
    simp [ne_nil_of_isNumeral digits]

end Dialogue

end VersionStamp

import TypeLaws.Proofs.Text.Split
import TypeLaws.Sample.System

/-!
Debug texts tell types apart. The text of a type is arbitrary and may look like a debug text itself,
but the name of its class has no blank in it, so that a debug text can be read from its end: the
class stands behind the last blank, and the text of the type in front of the mark.
-/

namespace TypeLaws

/-- There is no blank in the name of a class. A bracket would do no harm. -/
structure ClassName.IsPlain (name : ClassName) : Prop where
  home : ' ' ∉ name.home.toList
  qualified : ' ' ∉ name.qualified.toList

theorem ClassName.IsPlain.dotted {name : ClassName} (plain : name.IsPlain) :
    ' ' ∉ name.dotted.toList := by
  rw [ClassName.dotted, String.toList_append, String.toList_append, List.mem_append,
    List.mem_append, not_or, not_or]
  exact ⟨⟨plain.home, by decide⟩, plain.qualified⟩

namespace TypeSystem

def marked (text className : String) : String :=
  text ++ " [instanceof " ++ className ++ "]"

theorem toList_marked (text className : String) :
    (marked text className).toList =
      (text.toList ++ " [instanceof".toList) ++ ' ' :: (className.toList ++ [']']) := by
  have mark : " [instanceof ".toList = " [instanceof".toList ++ [' '] := rfl
  have closing : "]".toList = [']'] := rfl
  rw [marked, String.toList_append, String.toList_append, String.toList_append, mark, closing]
  simp only [List.append_assoc, List.cons_append, List.nil_append]

/-- What stands behind the last blank is the class, whatever the text is. -/
theorem eq_of_marked_eq {text other className otherName : String} (plain : ' ' ∉ className.toList)
    (otherPlain : ' ' ∉ otherName.toList)
    (same : marked text className = marked other otherName) :
    text = other ∧ className = otherName := by
  have closed {name : String} (plain : ' ' ∉ name.toList) : ' ' ∉ name.toList ++ [']'] := by
    rw [List.mem_append, not_or]
    exact ⟨plain, by decide⟩
  rw [← String.toList_inj, toList_marked, toList_marked] at same
  obtain ⟨sameText, sameName⟩ := Text.eq_of_cut_at_last (closed plain) (closed otherPlain) same
  exact ⟨String.toList_inj.mp (List.append_cancel_right sameText),
    String.toList_inj.mp (List.append_cancel_right sameName)⟩

theorem marked_ne_absentText (text className : String) : marked text className ≠ absentText := by
  intro same
  have lengths : (marked text className).length = absentText.length := congrArg String.length same
  have markLength : " [instanceof ".length = 13 := rfl
  have absentLength : absentText.length = 6 := rfl
  rw [marked, String.length_append, String.length_append, String.length_append, markLength,
    absentLength] at lengths
  omega

variable {σ τ : Type} {system : TypeSystem σ} {otherSystem : TypeSystem τ}

theorem debugText_some {t : σ} {text : String} (given : system.text t = .ok text) :
    system.debugText (some t) = .ok (marked text (system.className t).dotted) := by
  rw [debugText, given]
  rfl

theorem debugText_of_text {value : Option σ}
    (texts : ∀ t, value = some t → ∃ text, system.text t = .ok text) :
    ∃ shown, system.debugText value = .ok shown := by
  cases value with
  | none => exact ⟨_, rfl⟩
  | some t =>
      obtain ⟨text, given⟩ := texts t rfl
      exact ⟨_, debugText_some given⟩

theorem debugText_some_ne_absentText (t : σ) : system.debugText (some t) ≠ .ok absentText := by
  intro same
  cases given : system.text t with
  | error fault =>
      rw [debugText, given] at same
      cases same
  | ok text =>
      rw [debugText_some given] at same
      exact marked_ne_absentText _ _ (Except.ok.inj same)

/--
Every value whose text is there has a debug text. Two of them are the same, be it in two systems, just
when both values are absent, or both are present with one text and one class; and no present value is
shown as an absent one, whatever its text and its class are.
-/
theorem debug_texts_tell_types_apart {value : Option σ} {other : Option τ}
    (texts : ∀ t, value = some t → ∃ text, system.text t = .ok text)
    (otherTexts : ∀ u, other = some u → ∃ text, otherSystem.text u = .ok text)
    (plain : ∀ t, value = some t → (system.className t).IsPlain)
    (otherPlain : ∀ u, other = some u → (otherSystem.className u).IsPlain) :
    (∃ shown, system.debugText value = .ok shown) ∧
      (system.debugText value = otherSystem.debugText other ↔
        value = none ∧ other = none ∨
          ∃ t u, value = some t ∧ other = some u ∧ system.text t = otherSystem.text u ∧
            (system.className t).dotted = (otherSystem.className u).dotted) ∧
      ∀ t, system.debugText (some t) ≠ .ok absentText := by
  refine ⟨debugText_of_text texts, ?_, debugText_some_ne_absentText⟩
  constructor
  · intro same
    cases value with
    | none =>
        cases other with
        | none => exact .inl ⟨rfl, rfl⟩
        | some u => exact absurd same.symm (debugText_some_ne_absentText u)
    | some t =>
        cases other with
        | none => exact absurd same (debugText_some_ne_absentText t)
        | some u =>
            obtain ⟨text, given⟩ := texts t rfl
            obtain ⟨otherText, otherGiven⟩ := otherTexts u rfl
            rw [debugText_some given, debugText_some otherGiven] at same
            obtain ⟨sameText, sameName⟩ := eq_of_marked_eq (plain t rfl).dotted
              (otherPlain u rfl).dotted (Except.ok.inj same)
            exact .inr ⟨t, u, rfl, rfl, by rw [given, otherGiven, sameText], sameName⟩
  · intro alike
    rcases alike with ⟨rfl, rfl⟩ | ⟨t, u, rfl, rfl, sameText, sameName⟩
    · rfl
    · rw [debugText, debugText, sameText, sameName]

/-- A text that ends in the mark of another class, two classes with one text, and the absent text. -/
theorem debug_texts_tell_disguised_types_apart :
    let system := Sample.system []
    let number : Sample := .simple ⟨none, 0⟩ .number "number"
    let lopsided : Sample := .simple ⟨none, 1⟩ .lopsidedNumber "number"
    let disguised : Sample := .simple ⟨none, 2⟩ .plain "number [instanceof tests.fakes.NumberType]"
    let hidden : Sample := .simple ⟨none, 3⟩ .plain "[None]"
    system.debugText (some disguised) ≠ system.debugText (some number) ∧
      system.debugText (some lopsided) ≠ system.debugText (some number) ∧
      system.debugText (some hidden) ≠ .ok absentText := by
  intro system number lopsided disguised hidden
  have named (family : Sample.Family) : (⟨"tests.fakes", family.className⟩ : ClassName).IsPlain := by
    cases family <;> exact ⟨by decide, by decide⟩
  have texts (label : Sample.Label) (family : Sample.Family) (name : String) :
      ∀ t, some (Sample.simple label family name) = some t → ∃ text, system.text t = .ok text := by
    rintro t ⟨⟩
    exact ⟨name, rfl⟩
  have plain (label : Sample.Label) (family : Sample.Family) (name : String) :
      ∀ t, some (Sample.simple label family name) = some t → (system.className t).IsPlain := by
    rintro t ⟨⟩
    exact named family
  have tells (label other : Sample.Label) (family kin : Sample.Family) (name called : String) :=
    debug_texts_tell_types_apart (texts label family name) (texts other kin called)
      (plain label family name) (plain other kin called)
  refine ⟨?_, ?_, (tells ⟨none, 3⟩ ⟨none, 3⟩ .plain .plain "[None]" "[None]").2.2 hidden⟩
  · intro same
    rcases (tells _ _ _ _ _ _).2.1.mp same with ⟨absent, -⟩ | ⟨_, _, ⟨⟩, ⟨⟩, sameText, -⟩
    · cases absent
    · exact absurd (Except.ok.inj sameText) (by decide)
  · intro same
    rcases (tells _ _ _ _ _ _).2.1.mp same with ⟨absent, -⟩ | ⟨_, _, ⟨⟩, ⟨⟩, -, sameName⟩
    · cases absent
    · exact absurd sameName (by decide)

end TypeSystem

end TypeLaws

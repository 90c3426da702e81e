import Mathlib.Data.Set.Basic
import Mathlib.Data.List.Infix
import Mathlib.Logic.Relation

/-!
# Correspondence

Two parties write to each other over two channels that keep the order.  One of them
asks, and a question may open debts.  The other answers the questions as it takes
them, and may write letters of its own in between.  An answer that arrives settles
debts; the party that asks may also give up a debt at any time.

`Sound` holds along every run: the answers written are those to the questions taken,
in order, and every open debt is on its way, as a question or as an answer.
-/

namespace Ssim.Library

/-! ## Channels -/

/-- What was taken from a channel, and what is on its way. -/
structure Channel (Letter : Type*) where
  taken : List Letter
  waiting : List Letter

namespace Channel

variable {Letter : Type*}

def empty : Channel Letter := ⟨[], []⟩

def posted (channel : Channel Letter) : List Letter :=
  channel.taken ++ channel.waiting

def post (channel : Channel Letter) (letters : List Letter) : Channel Letter :=
  { channel with waiting := channel.waiting ++ letters }

def take (channel : Channel Letter) (count : Nat) : Channel Letter :=
  ⟨channel.taken ++ channel.waiting.take count, channel.waiting.drop count⟩

@[simp]
theorem post_taken (channel : Channel Letter) (letters : List Letter) :
    (channel.post letters).taken = channel.taken :=
  rfl

@[simp]
theorem post_waiting (channel : Channel Letter) (letters : List Letter) :
    (channel.post letters).waiting = channel.waiting ++ letters :=
  rfl

@[simp]
theorem post_nil (channel : Channel Letter) : channel.post [] = channel := by
  rw [post, List.append_nil]

@[simp]
theorem posted_post (channel : Channel Letter) (letters : List Letter) :
    (channel.post letters).posted = channel.posted ++ letters :=
  (List.append_assoc _ _ _).symm

@[simp]
theorem posted_take (channel : Channel Letter) (count : Nat) :
    (channel.take count).posted = channel.posted := by
  simp [posted, take]

end Channel

/-! ## Rules and runs -/

/-- What a question asks for, what a letter answers, and which debts an answer settles. -/
structure PostalRules (Question Letter Label Key : Type*) where
  reply : Question → Option Label
  label : Letter → Option Label
  settles : Label → Key → Prop

structure Correspondence (Question Letter Key : Type*) where
  questions : Channel Question
  letters : Channel Letter
  debts : Set Key

namespace Correspondence

variable {Question Letter Label Key : Type*}

def start : Correspondence Question Letter Key := ⟨.empty, .empty, ∅⟩

/-- One of the questions asks for what settles this debt. -/
def Asks (rules : PostalRules Question Letter Label Key) (questions : List Question) (key : Key) :
    Prop :=
  ∃ question ∈ questions, ∃ label, rules.reply question = some label ∧ rules.settles label key

/-- One of the letters settles this debt. -/
def Settled (rules : PostalRules Question Letter Label Key) (letters : List Letter) (key : Key) :
    Prop :=
  ∃ letter ∈ letters, ∃ label, rules.label letter = some label ∧ rules.settles label key

inductive Step (rules : PostalRules Question Letter Label Key)
    (before : Correspondence Question Letter Key) : Correspondence Question Letter Key → Prop where
  /-- New questions, which ask for what settles the debts that they open. -/
  | ask (questions : List Question) (debts : Set Key)
      (opened : ∀ key ∈ debts, key ∈ before.debts ∨ Asks rules questions key) :
      Step rules before { before with questions := before.questions.post questions, debts := debts }
  /-- The next questions are taken, and answered in order. -/
  | answer (count : Nat) (letters : List Letter)
      (answers : letters.filterMap rules.label =
        (before.questions.waiting.take count).filterMap rules.reply) :
      Step rules before
        { before with
          questions := before.questions.take count, letters := before.letters.post letters }
  /-- The next letters are taken, and what they settle is no debt any more. -/
  | settle (count : Nat) (debts : Set Key)
      (left : ∀ key ∈ debts,
        key ∈ before.debts ∧ ¬ Settled rules (before.letters.waiting.take count) key) :
      Step rules before { before with letters := before.letters.take count, debts := debts }

/-- Any number of steps. -/
def Run (rules : PostalRules Question Letter Label Key) :
    Correspondence Question Letter Key → Correspondence Question Letter Key → Prop :=
  Relation.ReflTransGen (Step rules)

/-! ## Soundness -/

structure Sound (rules : PostalRules Question Letter Label Key)
    (state : Correspondence Question Letter Key) : Prop where
  answered : state.letters.posted.filterMap rules.label =
    state.questions.taken.filterMap rules.reply
  owed : ∀ key ∈ state.debts,
    Asks rules state.questions.waiting key ∨ Settled rules state.letters.waiting key

variable {rules : PostalRules Question Letter Label Key}
  {before after : Correspondence Question Letter Key}

theorem Asks.append {first second : List Question} {key : Key} :
    Asks rules (first ++ second) key ↔ Asks rules first key ∨ Asks rules second key := by
  simp only [Asks, List.mem_append, or_and_right, exists_or]

theorem Settled.append {first second : List Letter} {key : Key} :
    Settled rules (first ++ second) key ↔
      Settled rules first key ∨ Settled rules second key := by
  simp only [Settled, List.mem_append, or_and_right, exists_or]

/-- A question that is answered has its answer among the letters. -/
theorem Settled.of_asks {questions : List Question} {letters : List Letter} {key : Key}
    (answers : letters.filterMap rules.label = questions.filterMap rules.reply)
    (asks : Asks rules questions key) : Settled rules letters key := by
  obtain ⟨question, member, label, replied, settles⟩ := asks
  have written : label ∈ letters.filterMap rules.label := by
    rw [answers]
    exact List.mem_filterMap.mpr ⟨question, member, replied⟩
  obtain ⟨letter, among, labelled⟩ := List.mem_filterMap.mp written
  exact ⟨letter, among, label, labelled, settles⟩

theorem sound_start : Sound rules (start : Correspondence Question Letter Key) where
  answered := rfl
  owed := fun _ debt => debt.elim

theorem Sound.step (sound : Sound rules before) (step : Step rules before after) :
    Sound rules after := by
  cases step with
  | ask questions debts opened =>
      refine ⟨sound.answered, fun key debt => ?_⟩
      rw [Channel.post_waiting, Asks.append]
      rcases opened key debt with old | asks
      · exact (sound.owed key old).imp_left Or.inl
      · exact .inl (.inr asks)
  | answer count letters answers =>
      constructor
      · rw [Channel.posted_post, List.filterMap_append, sound.answered, answers, Channel.take,
          List.filterMap_append]
      · intro key debt
        rw [Channel.post_waiting, Settled.append]
        rcases sound.owed key debt with asks | settled
        · -- The question is still waiting, or it is among those that are answered now.
          rw [← List.take_append_drop count before.questions.waiting, Asks.append] at asks
          rcases asks with taken | waiting
          · exact .inr (.inr (.of_asks answers taken))
          · exact .inl waiting
        · exact .inr (.inl settled)
  | settle count debts left =>
      constructor
      · rw [Channel.posted_take]
        exact sound.answered
      · intro key debt
        obtain ⟨old, unsettled⟩ := left key debt
        refine (sound.owed key old).imp_right fun settled => ?_
        rw [← List.take_append_drop count before.letters.waiting, Settled.append] at settled
        exact settled.resolve_left unsettled

theorem Sound.run (sound : Sound rules before) (run : Run rules before after) :
    Sound rules after := by
  induction run with
  | refl => exact sound
  | tail _ step ih => exact ih.step step

/-- The answers written are those to the first of the questions, in order. -/
theorem Sound.posted_front (sound : Sound rules before) :
    before.letters.posted.filterMap rules.label <+:
      before.questions.posted.filterMap rules.reply := by
  rw [sound.answered, Channel.posted, List.filterMap_append]
  exact List.prefix_append _ _

/-- Once nothing is on its way, every question is answered and no debt is left. -/
theorem Sound.settled (sound : Sound rules before) (noQuestions : before.questions.waiting = [])
    (noLetters : before.letters.waiting = []) :
    before.letters.taken.filterMap rules.label =
        before.questions.posted.filterMap rules.reply ∧
      before.debts = ∅ := by
  constructor
  · have answered := sound.answered
    rw [Channel.posted, noLetters, List.append_nil] at answered
    rw [answered, Channel.posted, noQuestions, List.append_nil]
  · refine Set.eq_empty_iff_forall_notMem.mpr fun key debt => ?_
    rcases sound.owed key debt with ⟨_, member, _⟩ | ⟨_, member, _⟩
    · rw [noQuestions] at member
      cases member
    · rw [noLetters] at member
      cases member

end Correspondence

end Ssim.Library

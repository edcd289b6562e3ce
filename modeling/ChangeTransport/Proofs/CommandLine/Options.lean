import ChangeTransport.CommandLine.Options
import ChangeTransport.Proofs.Checks

/-!
# Options with their values

A list of options, each a word that names it and a word that is its value, is read exactly if every
value is taken for one.  A word that begins with a hyphen and goes on behind it is taken for an
option, and then the option in front of it has no value.
-/

namespace ChangeTransport.CommandLine

/-! ## Words that are no values -/

/-- A word that begins with a hyphen and goes on behind it. -/
def IsHyphened (text : String) : Prop :=
  ∃ second rest, text.toList = '-' :: second :: rest

/-- A hyphened word ends the options or names at least one. -/
theorem Word.of_hyphened {text : String} (hyphened : IsHyphened text) :
    Word.of text = .ending ∨ (∃ name value, Word.of text = .long name value) ∨
      ∃ letter letters, Word.of text = .letters (letter :: letters) := by
  rcases hyphened with ⟨second, rest, spelled⟩
  unfold Word.of
  split
  · exact .inl rfl
  · unfold Word.ofLong
    dsimp only
    split
    · exact .inr (.inl ⟨_, _, rfl⟩)
    · exact .inr (.inl ⟨_, _, rfl⟩)
  · exact .inr (.inr ⟨_, _, rfl⟩)
  · next others => exact absurd spelled (others second rest)

/-- Every other word is taken for what it is. -/
theorem Word.of_plain {text : String} (plain : ¬ IsHyphened text) :
    Word.of text = .plain text := by
  unfold Word.of
  split
  · next spelled => exact absurd ⟨_, _, spelled⟩ plain
  · next spelled => exact absurd ⟨_, _, spelled⟩ plain
  · next spelled => exact absurd ⟨_, _, spelled⟩ plain
  · rfl

namespace Reading

variable {rules : List OptionRule} {reading base : Reading}

/-! ## An option that waits for its value -/

theorem takeFlag_waiting (waiting : String) (rule : OptionRule) :
    takeFlag { reading with pending := .waiting waiting } rule = .error .valueMissing := rfl

variable (rules reading) in
theorem takeLong_waiting (waiting name : String) (value : Option String) :
    ∃ refusal,
      takeLong rules { reading with pending := .waiting waiting } name value =
        .error refusal := by
  unfold takeLong
  split
  · exact ⟨.unknownOption, rfl⟩
  · split
    · exact ⟨.valueMissing, rfl⟩
    · exact ⟨.valueMissing, rfl⟩
    · exact ⟨.valueUnwanted, rfl⟩
    · exact ⟨.valueMissing, takeFlag_waiting waiting _⟩

variable (rules reading) in
theorem takeLetters_waiting (waiting : String) (letter : Char) (letters : List Char) :
    ∃ refusal,
      takeLetters rules { reading with pending := .waiting waiting } (letter :: letters) =
        .error refusal := by
  unfold takeLetters
  split
  · exact ⟨.unknownOption, rfl⟩
  · exact ⟨.valueMissing, by rw [takeFlag_waiting, error_bind]⟩

/-- A hyphened word in the place of a value ends the reading. -/
theorem takeAll_waiting_hyphened
    {text : String} (hyphened : IsHyphened text) (waiting : String) (words : List Word) :
    ∃ refusal,
      takeAll rules { reading with pending := .waiting waiting } (Word.of text :: words) =
        .error refusal := by
  rcases Word.of_hyphened hyphened with
    ending | ⟨name, value, long⟩ | ⟨letter, letters, short⟩
  · rw [ending]
    cases words with
    | nil => exact ⟨.valueMissing, rfl⟩
    | cons next words => exact ⟨.unknownOption, rfl⟩
  · rcases takeLong_waiting rules reading waiting name value with ⟨refusal, refused⟩
    exact ⟨refusal, by rw [long, takeAll, refused, error_bind]⟩
  · rcases takeLetters_waiting rules reading waiting letter letters with ⟨refusal, refused⟩
    exact ⟨refusal, by rw [short, takeAll, refused, error_bind]⟩

/-! ## Options one after the other -/

/-- The words of options, each with its value behind it. -/
def optionWords (given : List (String × String)) : List Word :=
  given.flatMap fun option => [.long option.1 none, .of option.2]

/-- A rule by which the option of a name has a value. -/
def HasValue (rules : List OptionRule) (name : String) : Prop :=
  ∃ rule source required, rules.find? (fun rule => rule.name == name) = some rule ∧
    rule.effect = .value source required

/-- The option that waits for the next word. -/
theorem takeAll_named
    {name : String} (known : HasValue rules name)
    (settled : reading.settle = .ok base) (words : List Word) :
    reading.takeAll rules (.long name none :: words) =
      takeAll rules { base with pending := .waiting name } words := by
  rcases known with ⟨rule, source, required, found, effect⟩
  rw [takeAll, takeLong, found]
  simp only [effect, settled, ok_bind]
  rfl

theorem settle_filled
    {name value : String}
    (idle : base.pending = .nothing) (fresh : base.values.lookup name = none) :
    settle { base with pending := .filled name value } =
      .ok { base with values := (name, value) :: base.values } := by
  simp [settle, giveValue, fresh, idle]

/--
Options are read to the end if none of their values is hyphened, and refused otherwise.  The
reading goes on from one in which the option named last is given.
-/
theorem takeAll_optionWords
    (given : List (String × String))
    (settled : reading.settle = .ok base) (idle : base.pending = .nothing)
    (known : ∀ option ∈ given, HasValue rules option.1)
    (fresh : ∀ option ∈ given, base.values.lookup option.1 = none)
    (distinct : (given.map Prod.fst).Nodup) :
    ((∀ option ∈ given, ¬ IsHyphened option.2) →
      reading.takeAll rules (optionWords given) =
        .ok { base with values := given.reverse ++ base.values }) ∧
    ((∃ option ∈ given, IsHyphened option.2) →
      ∃ refusal, reading.takeAll rules (optionWords given) = .error refusal) := by
  induction given generalizing reading base with
  | nil =>
      constructor
      · intro none
        exact settled
      · rintro ⟨option, member, -⟩
        cases member
  | cons first rest induction =>
      rcases first with ⟨name, value⟩
      have words : optionWords ((name, value) :: rest) =
          .long name none :: .of value :: optionWords rest := rfl
      rw [words, takeAll_named (known _ List.mem_cons_self) settled]
      by_cases hyphened : IsHyphened value
      · constructor
        · intro plain
          exact absurd hyphened (plain (name, value) List.mem_cons_self)
        · intro found
          exact takeAll_waiting_hyphened hyphened name _
      · have freshName : base.values.lookup name = none := fresh (name, value) List.mem_cons_self
        have freshRest : ∀ option ∈ rest,
            List.lookup option.1 ((name, value) :: base.values) = none := by
          intro option member
          have differs : option.1 ≠ name := by
            intro same
            apply (List.nodup_cons.mp distinct).1
            exact List.mem_map.mpr ⟨option, member, same⟩
          rw [List.lookup_cons, beq_false_of_ne differs]
          exact fresh option (List.mem_cons_of_mem _ member)
        have later := induction (settle_filled idle freshName) idle
          (fun option member => known option (List.mem_cons_of_mem _ member)) freshRest
          (List.nodup_cons.mp distinct).2
        rw [Word.of_plain hyphened, takeAll]
        simpa [hyphened] using later

end Reading

end ChangeTransport.CommandLine

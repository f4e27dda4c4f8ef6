import ImportImpact.CommandLine.Switch

/-!
Going through a command line from left to right: switches take effect in their order, and words
between them fill the place that a command has for plain words. Reading may stop at a switch that
cannot be understood; what came before it has been read by then.
-/

namespace ImportImpact.CommandLine

inductive Place where
  | word
  | remainder
  deriving DecidableEq

inductive Event where
  | switch (switch : Switch) (value : Option String)
  | words (texts : List String)

/-- What was read. `unknown` are words that nothing is known of; `failed` says that reading
stopped. -/
structure Reading where
  events : List Event
  unknown : List String
  failed : Bool

namespace Reading

def stopped : Reading := ⟨[], [], true⟩

def after (reading : Reading) (events : List Event) (unknown : List String) : Reading :=
  { reading with events := events ++ reading.events, unknown := unknown ++ reading.unknown }

end Reading

/-- Fills a place with the words that come next, separators around them left out. The place for
a remainder keeps all words. Gives what follows, which is shorter. -/
def fill? (place : Place) (words : List Word) :
    Option (List String × { rest : List Word // rest.length < words.length }) :=
  match shape : words.dropWhile Word.isSeparator with
  | [] => none
  | word :: rest =>
      have bound : rest.length < words.length := by
        have := (List.dropWhile_sublist Word.isSeparator (l := words)).length_le
        rw [shape] at this
        exact Nat.lt_of_succ_le this
      if !word.isPlain then none
      else match place with
        | .word =>
            have := (List.dropWhile_sublist Word.isSeparator (l := rest)).length_le
            some ([word.text], ⟨rest.dropWhile Word.isSeparator, by omega⟩)
        | .remainder => some (words.map Word.text, ⟨[], by simp; omega⟩)

def readWords (known : List Switch) (place : Option Place) (words : List Word) : Reading :=
  match words with
  | [] => ⟨[], [], false⟩
  | word :: rest =>
      match word.role with
      | .unknown => (readWords known place rest).after [] [word.text]
      | .switch written =>
          match unpack? known written with
          | none => .stopped
          | some unpacked =>
              let given := unpacked.given.map fun (switch, value) => Event.switch switch value
              match unpacked.needy with
              | none => (readWords known place rest).after given unpacked.unknown
              | some needy =>
                  match rest with
                  | [] => .stopped
                  | value :: rest =>
                      if value.isPlain then
                        (readWords known place rest).after
                          (given ++ [.switch needy (some value.text)]) unpacked.unknown
                      else .stopped
      | _ =>
          match place.bind fun place => fill? place (word :: rest) with
          | some (texts, ⟨left, shorter⟩) =>
              have : left.length ≤ rest.length := Nat.le_of_lt_succ shorter
              (readWords known none left).after [.words texts] []
          | none =>
              let extra := rest.takeWhile fun word => !word.isSwitch
              have := (List.dropWhile_sublist (fun word => !Word.isSwitch word)
                (l := rest)).length_le
              (readWords known place (rest.dropWhile fun word => !word.isSwitch)).after []
                (word.text :: extra.map Word.text)
  termination_by words.length
  decreasing_by all_goals simp only [List.length_cons]; omega

def read (known : List Switch) (place : Option Place) (arguments : List String) : Reading :=
  match classifyAll? known arguments with
  | some words => readWords known place words
  | none => .stopped

end ImportImpact.CommandLine

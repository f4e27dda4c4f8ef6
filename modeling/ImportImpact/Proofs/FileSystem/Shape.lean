import ImportImpact.Proofs.FileSystem.Folders

/-!
Trees of one shape: the same directories and links, and files in the same places, whatever they
hold. Where a path leads, what is answered about it and what a walk finds is the same in all of
them. Only a look into a file can tell them apart.
-/

namespace ImportImpact

def Entry.emptied : Entry → Entry
  | .file _ => .file []
  | other => other

namespace FileSystem

structure SameShape (first second : FileSystem) : Prop where
  working : first.workingDirectory = second.workingDirectory
  same : ∀ location,
    (first.lookup? location).map Entry.emptied = (second.lookup? location).map Entry.emptied
  platform : first.platform = second.platform

namespace SameShape

variable {first second : FileSystem}

theorem entry_cases (alike : SameShape first second) (location : Location) :
    first.lookup? location = second.lookup? location ∨ ∃ content other,
      first.lookup? location = some (.file content) ∧
        second.lookup? location = some (.file other) := by
  have same := alike.same location
  cases here : first.lookup? location with
  | none =>
      rw [here] at same
      exact Or.inl (Option.map_eq_none_iff.1 same.symm).symm
  | some entry =>
      rw [here] at same
      obtain ⟨other, there, shape⟩ := Option.map_eq_some_iff.1 same.symm
      rw [there]
      cases entry <;> cases other <;> simp_all [Entry.emptied]

theorem missing_iff (alike : SameShape first second) (location : Location) :
    second.lookup? location = none ↔ first.lookup? location = none := by
  rcases alike.entry_cases location with same | ⟨content, other, here, there⟩
  · rw [same]
  · simp [here, there]

theorem link_iff (alike : SameShape first second) (location : Location) (target : String) :
    second.lookup? location = some (.link target) ↔
      first.lookup? location = some (.link target) := by
  rcases alike.entry_cases location with same | ⟨content, other, here, there⟩
  · rw [same]
  · simp [here, there]

theorem directory_iff (alike : SameShape first second) (location : Location) :
    second.lookup? location = some .directory ↔ first.lookup? location = some .directory := by
  rcases alike.entry_cases location with same | ⟨content, other, here, there⟩
  · rw [same]
  · simp [here, there]

theorem directory_eq (alike : SameShape first second) (location : Location) :
    second.isDirectoryAt location = first.isDirectoryAt location := by
  rw [isDirectoryAt, isDirectoryAt, decide_eq_decide]
  exact alike.directory_iff location

theorem looks_up (alike : SameShape first second) {here : Location} {step : String}
    (looks : first.LooksUp here step) : second.LooksUp here step :=
  ⟨(alike.directory_eq here).trans looks.directory, looks.down, looks.short⟩

theorem no_link (alike : SameShape first second) {location : Location} {entry : Entry}
    (there : first.lookup? location = some entry) (plain : ∀ target, entry ≠ .link target) :
    ∃ other, second.lookup? location = some other ∧ ∀ target, other ≠ .link target := by
  rcases alike.entry_cases location with same | ⟨content, other, -, file⟩
  · exact ⟨entry, same.symm.trans there, plain⟩
  · exact ⟨.file other, file, nofun⟩

theorem followed (alike : SameShape first second) (through : Bool) (links : Nat)
    (here : Location) (steps : List String) :
    second.follow through links here steps = first.follow through links here steps := by
  have directory_too {here : Location} {answer : Bool}
      (directory : first.isDirectoryAt here = answer) : second.isDirectoryAt here = answer :=
    (alike.directory_eq here).trans directory
  induction links, here, steps using follow_induction first through with
  | nothing => rw [follow_nothing, follow_nothing]
  | closed links here step rest closed =>
      rw [follow_closed closed, follow_closed (directory_too closed)]
  | idle links here step rest directory idle induction =>
      rw [follow_idle directory idle, follow_idle (directory_too directory) idle, induction]
  | up links here rest directory induction =>
      rw [follow_up directory, follow_up (directory_too directory), induction]
  | long links here step rest directory down long =>
      rw [follow_long directory down long, follow_long (directory_too directory) down long]
  | missing links here step rest looks missing =>
      rw [looks.follow_missing missing,
        (alike.looks_up looks).follow_missing ((alike.missing_iff _).2 missing)]
  | last links here step target looks link stays =>
      subst stays
      rw [looks.follow_last link, (alike.looks_up looks).follow_last ((alike.link_iff _ _).2 link)]
  | spent here step rest target looks link onward =>
      rw [looks.follow_spent link onward,
        (alike.looks_up looks).follow_spent ((alike.link_iff _ _).2 link) onward]
  | link links here step rest target looks link onward induction =>
      rw [looks.follow_link link onward,
        (alike.looks_up looks).follow_link ((alike.link_iff _ _).2 link) onward, induction]
  | entry links here step rest entry looks found plain induction =>
      obtain ⟨other, there, plainToo⟩ := alike.no_link found plain
      rw [looks.follow_entry found plain, (alike.looks_up looks).follow_entry there plainToo,
        induction]

theorem arrived (alike : SameShape first second) (through : Bool) (path : Path) :
    second.arrive through path = first.arrive through path := by
  rw [arrive, arrive, alike.followed]
  have start : second.start path = first.start path := by
    unfold FileSystem.start
    rw [alike.working]
  rw [start]

theorem located (alike : SameShape first second) (path : Path) :
    second.locate path = first.locate path := by
  rw [locate, locate, alike.arrived]

/-- A question that is answered without a look into files has the same answer. -/
theorem asked (alike : SameShape first second) {property : Entry → Bool}
    (outward : ∀ entry : Entry, property entry.emptied = property entry) (path : Path) :
    second.ask path property = first.ask path property := by
  rw [ask, ask, entryAt, entryAt, alike.located]
  cases first.locate path with
  | error refusal => rfl
  | ok location =>
      simp only [bind, Except.bind]
      rcases alike.entry_cases location with same | ⟨content, other, here, there⟩
      · rw [same]
      · rw [here, there]
        have answer := (outward (.file other)).symm.trans (outward (.file content))
        simp only [pure, Except.pure, answer]

theorem file_asked (alike : SameShape first second) (path : Path) :
    second.isFile path = first.isFile path :=
  alike.asked (fun entry => by cases entry <;> rfl) path

theorem directory_asked (alike : SameShape first second) (path : Path) :
    second.isDirectory path = first.isDirectory path :=
  alike.asked (fun entry => by cases entry <;> rfl) path

theorem listed (alike : SameShape first second) (directory : Location) :
    second.names directory = first.names directory :=
  names_congr fun _ => alike.missing_iff _

theorem seen (alike : SameShape first second) (rules : WalkRules) (path : Path)
    (location : Location) :
    second.visible rules path location = first.visible rules path location := by
  rw [visible, visible, alike.located, alike.listed]
  cases first.locate path with
  | error refusal => rfl
  | ok listed =>
      dsimp only
      congr 1
      apply List.filter_congr
      intro name _
      rcases alike.entry_cases (location ++ [name]) with same | ⟨content, other, here, there⟩
      · rw [same]
      · rw [here, there]

theorem placed (alike : SameShape first second) (path : Path) :
    second.place path = first.place path := by
  rw [place, place, alike.located]
  cases first.locate path.parent with
  | error refusal => rfl
  | ok directory =>
      simp only [bind, Except.bind, alike.located]
      rcases alike.entry_cases (directory ++ [path.lastName]) with
        same | ⟨content, other, here, there⟩
      · rw [same]
      · rw [here, there]

theorem file_iff (alike : SameShape first second) (location : Location) :
    (∃ content, second.lookup? location = some (.file content)) ↔
      ∃ content, first.lookup? location = some (.file content) := by
  rcases alike.entry_cases location with same | ⟨content, other, here, there⟩
  · rw [same]
  · simp [here, there]

theorem walks_alike (alike : SameShape first second) (rules : WalkRules) :
    WalksAlike first second rules fun _ => True where
  enters path _ location :=
    ⟨fun ⟨placed, there, kept⟩ =>
        ⟨alike.placed path ▸ placed, (alike.directory_iff _).1 there, kept⟩,
      fun ⟨placed, there, kept⟩ =>
        ⟨(alike.placed path).trans placed, (alike.directory_iff _).2 there, kept⟩⟩
  real path _ := real_path_congr alike.working alike.link_iff path
  gives path _ := by
    unfold Gives
    simp only [alike.placed, exists_and_left, alike.file_iff]
  visible path location _ _ := alike.seen rules path location
  down _ _ _ _ _ _ := trivial

theorem walked (alike : SameShape first second) (rules : WalkRules) (directory : Path) :
    second.walked rules directory = first.walked rules directory := by
  have visits (entered : List Location) (pending : List Path) :
      second.visitsFrom rules entered pending = first.visitsFrom rules entered pending :=
    (alike.walks_alike rules).visits_from entered fun _ _ => trivial
  have key : second.realNames directory = first.realNames directory := by
    rw [realNames, real_path_congr alike.working alike.link_iff, realNames]
  rw [FileSystem.walked, FileSystem.walked, alike.directory_asked, alike.located, key,
    alike.platform]
  simp only [alike.seen, visits]

theorem settled (alike : SameShape first second) (path : Path) :
    second.settle path = first.settle path := by
  rw [settle, settle, real_path_congr alike.working alike.link_iff]
  simp only [alike.located]

end SameShape

end FileSystem

end ImportImpact

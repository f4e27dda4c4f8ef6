import ImportImpact.FileSystem.Edit
import ImportImpact.FileSystem.RealPath
import ImportImpact.Proofs.FileSystem.Steps
import ImportImpact.Proofs.FileSystem.Walk

/-!
Looking things up: steps that need no links, paths at the root, real paths, entries of a directory,
the walk over files alone, and what is found after an entry was put somewhere.
-/

namespace ImportImpact.FileSystem

variable {system : FileSystem}

theorem downward_of_name {name : String} (named : isName name = true) : Downward name := by
  obtain ⟨⟨busy, -⟩, down⟩ := is_name_iff.1 named
  refine ⟨?_, ?_, down⟩
  · rintro rfl
    cases busy
  · rintro rfl
    cases busy

theorem looks_up_name {here : Location} {name : String}
    (directory : system.isDirectoryAt here = true) (named : isName name = true)
    (short : name.utf8ByteSize ≤ longestName) : system.LooksUp here name :=
  ⟨directory, downward_of_name named, short⟩

theorem follow_name {through : Bool} {links : Nat} {here : Location} {name : String}
    {entry : Entry} (directory : system.isDirectoryAt here = true) (named : isName name = true)
    (short : name.utf8ByteSize ≤ longestName) (there : system.lookup? (here ++ [name]) = some entry)
    (plain : ∀ target, entry ≠ .link target) (rest : List String) :
    system.follow through links here (name :: rest) =
      system.follow through links (here ++ [name]) rest :=
  (looks_up_name directory named short).follow_entry there plain rest

theorem looks_up_of_followed {through : Bool} {links : Nat} {here : Location} {name : String}
    {rest : List String} {arrival : Arrival} (named : isName name = true)
    (followed : system.follow through links here (name :: rest) = .ok arrival) :
    system.LooksUp here name := by
  have down := downward_of_name named
  cases directory : system.isDirectoryAt here with
  | false =>
      rw [follow_closed directory] at followed
      cases followed
  | true =>
      refine ⟨directory, down, Nat.not_lt.1 fun long => ?_⟩
      rw [follow_long directory down long] at followed
      cases followed

theorem eq_of_followed {links : Nat} {here location : Location} {name : String} {entry : Entry}
    (named : isName name = true) (there : system.lookup? (here ++ [name]) = some entry)
    (plain : ∀ target, entry ≠ .link target)
    (followed : system.follow true links here [name] = .ok (.entry location)) :
    location = here ++ [name] := by
  rw [(looks_up_of_followed named followed).follow_entry there plain, follow_nothing] at followed
  cases followed
  rfl

theorem follow_link {here : Location} {name target : String}
    (directory : system.isDirectoryAt here = true) (named : isName name = true)
    (short : name.utf8ByteSize ≤ longestName)
    (there : system.lookup? (here ++ [name]) = some (.link target)) (links : Nat)
    (rest : List String) : system.follow true links here (name :: rest) =
      match links with
      | 0 => .error .tooManyLinks
      | links + 1 => system.follow true links (if Written.rooted target then [] else here)
          (steps target ++ rest) := by
  have looks := looks_up_name directory named short
  cases links with
  | zero => exact looks.follow_spent there (goes_through_all rest)
  | succ links => exact looks.follow_link there (goes_through_all rest)

theorem arrive_ok_iff {through : Bool} {path : Path} {arrival : Arrival} :
    system.arrive through path = .ok arrival ↔ path.text.utf8ByteSize < longestPath ∧
      system.follow through mostLinks (system.start path) path.names = .ok arrival := by
  unfold arrive
  split
  next long => simp [Nat.not_lt.2 long]
  next short => simp [Nat.not_le.1 short]

theorem located_iff {path : Path} {location : Location} : system.locate path = .ok location ↔
    path.text.utf8ByteSize < longestPath ∧
      system.follow true mostLinks (system.start path) path.names = .ok (.entry location) := by
  rw [← arrive_ok_iff, locate]
  cases system.arrive true path with
  | error refusal => simp [bind, Except.bind]
  | ok arrival => cases arrival <;> simp [bind, Except.bind, pure, Except.pure]

section Refused

variable {path : Path} {refusal : Refusal}

theorem locate_too_long (long : longestPath ≤ path.text.utf8ByteSize) :
    system.locate path = .error .nameTooLong := by
  rw [locate, arrive, if_pos long]
  rfl

theorem locate_of_followed (short : path.text.utf8ByteSize < longestPath) :
    system.locate path =
      match system.follow true mostLinks (system.start path) path.names with
      | .ok (.entry location) => .ok location
      | .ok (.free _) => .error .noEntry
      | .error refusal => .error refusal := by
  rw [locate, arrive, if_neg (Nat.not_le.2 short)]
  cases system.follow true mostLinks (system.start path) path.names with
  | error refusal => rfl
  | ok arrival => cases arrival <;> rfl

theorem locate_refused (short : path.text.utf8ByteSize < longestPath)
    (refused : system.follow true mostLinks (system.start path) path.names = .error refusal) :
    system.locate path = .error refusal := by
  rw [locate_of_followed short, refused]

end Refused

theorem locate_root (system : FileSystem) : system.locate ⟨.root, []⟩ = .ok [] :=
  located_iff.2 ⟨by decide, follow_nothing true mostLinks []⟩

theorem settle_root (system : FileSystem) : system.settle ⟨.root, []⟩ = .ok ⟨.root, []⟩ := by
  have real : system.realPath ⟨.root, []⟩ = ⟨.root, []⟩ := by
    unfold realPath
    rw [List.map_nil, realFrom]
    rfl
  rw [settle, real, locate_root]

theorem root_is_directory (system : FileSystem) :
    system.isDirectory ⟨.root, []⟩ = .ok true := by
  unfold isDirectory ask entryAt
  rw [locate_root]
  rfl

theorem text_of_name (name : String) : Path.text ⟨.root, [name]⟩ = "/" ++ name := by
  change "/" ++ "/".intercalate [name] = "/" ++ name
  rw [String.intercalate_singleton]

theorem short_path_of_name {name : String} (short : name.utf8ByteSize ≤ longestName) :
    (Path.text ⟨.root, [name]⟩).utf8ByteSize < longestPath := by
  rw [text_of_name, String.utf8ByteSize_append]
  have slash : "/".utf8ByteSize = 1 := by decide
  unfold longestName at short
  unfold longestPath
  omega

theorem locate_name {name : String} {entry : Entry} (named : isName name = true)
    (short : name.utf8ByteSize ≤ longestName) (there : system.lookup? [name] = some entry)
    (plain : ∀ target, entry ≠ .link target) : system.locate ⟨.root, [name]⟩ = .ok [name] := by
  refine located_iff.2 ⟨short_path_of_name short, ?_⟩
  change system.follow true mostLinks [] [name] = .ok (.entry [name])
  rw [follow_name rfl named short there plain]
  exact follow_nothing true mostLinks [name]

theorem entry_of_located {path : Path} {location : Location} {entry : Entry}
    (located : system.locate path = .ok location) (there : system.lookup? location = some entry) :
    system.entryAt path = .ok entry := by
  rw [entryAt, located]
  simp only [bind, Except.bind, there, pure, Except.pure]

theorem located_of_entry {path : Path} {entry : Entry}
    (found : system.entryAt path = .ok entry) :
    ∃ location, system.locate path = .ok location ∧ system.lookup? location = some entry := by
  rw [entryAt] at found
  cases located : system.locate path with
  | error refusal =>
      rw [located] at found
      cases found
  | ok location =>
      rw [located] at found
      refine ⟨location, rfl, ?_⟩
      cases there : system.lookup? location with
      | none => simp [bind, Except.bind, there] at found
      | some other => simpa [bind, Except.bind, pure, Except.pure, there] using found

theorem is_file_iff {path : Path} :
    system.isFile path = .ok true ↔ ∃ content, system.entryAt path = .ok (.file content) := by
  rw [isFile, ask]
  cases system.entryAt path with
  | error refusal => cases refusal <;> simp [absent]
  | ok entry => cases entry <;> simp [Entry.isFile]

theorem directory_of_located {path : Path} {location : Location}
    (located : system.locate path = .ok location)
    (there : system.lookup? location = some .directory) : system.isDirectory path = .ok true := by
  rw [isDirectory, ask, entry_of_located located there]
  rfl

theorem located_directory {path : Path} (there : system.isDirectory path = .ok true) :
    ∃ location, system.locate path = .ok location ∧
      system.lookup? location = some .directory := by
  unfold isDirectory ask entryAt at there
  cases located : system.locate path with
  | error refusal =>
      simp only [located, bind, Except.bind] at there
      split at there <;> cases there
  | ok location =>
      refine ⟨location, rfl, ?_⟩
      cases found : system.lookup? location with
      | none => simp [located, found, bind, Except.bind, absent] at there
      | some entry => cases entry <;> simp [located, found, bind, Except.bind, pure, Except.pure,
          Entry.isDirectory] at there ⊢

section RealFrom

variable {system : FileSystem} {resolved : List (Location × Location)} {opened : List Location}
  {here : Location} {name : String} {rest : List Pending}

theorem real_from_link (busy : ¬(name = "" || name = ".") = true) (down : ¬name = "..")
    {target : String} (link : system.linkAt? (here ++ [name]) = some target) :
    system.realFrom resolved opened here (.step name :: rest) =
      match resolved.lookup (here ++ [name]) with
      | some place => system.realFrom resolved opened place rest
      | none =>
          if here ++ [name] ∈ opened then
            evaluate (here ++ [name] ++ rest.filterMap Pending.name?)
          else
            system.realFrom resolved ((here ++ [name]) :: opened)
              (if Written.rooted target then [] else here)
              ((steps target).map .step ++ .reached (here ++ [name]) :: rest) := by
  rw [realFrom, if_neg busy, if_neg down]
  split
  next other there =>
    rw [link] at there
    cases there
    rfl
  next plain =>
    rw [link] at plain
    cases plain

theorem real_from_plain (busy : ¬(name = "" || name = ".") = true) (down : ¬name = "..")
    (plain : system.linkAt? (here ++ [name]) = none) :
    system.realFrom resolved opened here (.step name :: rest) =
      system.realFrom resolved opened (here ++ [name]) rest := by
  rw [realFrom, if_neg busy, if_neg down]
  split
  next target there =>
    rw [plain] at there
    cases there
  · rfl

theorem link_at_none {location : Location}
    (plain : ∀ target, system.lookup? location ≠ some (.link target)) :
    system.linkAt? location = none :=
  Option.eq_none_iff_forall_ne_some.2 fun target seen => plain target (link_at_iff.1 seen).2

theorem link_at_congr {first second : FileSystem}
    (links : ∀ location target, second.lookup? location = some (.link target) ↔
      first.lookup? location = some (.link target)) (location : Location) :
    second.linkAt? location = first.linkAt? location :=
  Option.ext fun target => by rw [link_at_iff, link_at_iff, links]

theorem real_from_congr {first second : FileSystem}
    (links : ∀ location target, second.lookup? location = some (.link target) ↔
      first.lookup? location = some (.link target))
    (resolved : List (Location × Location)) (opened : List Location) (here : Location)
    (pending : List Pending) :
    second.realFrom resolved opened here pending =
      first.realFrom resolved opened here pending := by
  have seen := link_at_congr links
  fun_induction realFrom first resolved opened here pending with
  | case1 => rw [realFrom]
  | case2 resolved opened here link rest induction => rw [realFrom, induction]
  | case3 resolved opened here name rest idle induction =>
      rw [realFrom, if_pos idle, induction]
  | case4 resolved opened here rest busy induction =>
      rw [realFrom, if_neg busy, if_pos rfl, induction]
  | case5 resolved opened here name rest busy down target link place known induction =>
      rw [real_from_link busy down ((seen _).trans link), known]
      exact induction
  | case6 resolved opened here name rest busy down target link unknown met =>
      rw [real_from_link busy down ((seen _).trans link), unknown]
      exact if_pos met
  | case7 resolved opened here name rest busy down target link unknown fresh induction =>
      rw [real_from_link busy down ((seen _).trans link), unknown]
      exact (if_neg fresh).trans induction
  | case8 resolved opened here name rest busy down plain induction =>
      rw [real_from_plain busy down ((seen _).trans plain)]
      exact induction

/-- Only links decide about the real path of a path. -/
theorem real_path_congr {first second : FileSystem}
    (working : first.workingDirectory = second.workingDirectory)
    (links : ∀ location target, second.lookup? location = some (.link target) ↔
      first.lookup? location = some (.link target)) (path : Path) :
    second.realPath path = first.realPath path := by
  have start : second.start path = first.start path := by
    unfold FileSystem.start
    rw [working]
  rw [realPath, realPath, start, real_from_congr links]

end RealFrom

section Place

variable {folder : Path} {directory : Location} {name : String} {entry : Entry} {target : String}

theorem place_plain (located : system.locate folder = .ok directory)
    (there : system.lookup? (directory ++ [name]) = some entry)
    (plain : ∀ target, entry ≠ .link target) :
    system.place (folder.child name) = .ok (directory ++ [name]) := by
  rw [place, Path.parent_child, Path.last_name_child, located]
  simp only [bind, Except.bind, there]
  cases entry with
  | link target => exact absurd rfl (plain target)
  | directory => rfl
  | file content => rfl

theorem place_link (located : system.locate folder = .ok directory)
    (there : system.lookup? (directory ++ [name]) = some (.link target)) :
    system.place (folder.child name) = system.locate (folder.child name) := by
  rw [place, Path.parent_child, Path.last_name_child, located]
  simp only [bind, Except.bind, there]

end Place

theorem names_of_written {directory : Location} {names : List String}
    (written : ((system.entries.filterMap fun entry => nameIn? directory entry.1).filter
      isName).eraseDups = names)
    (sorted : names.Pairwise fun left right => !decide (right < left)) :
    system.names directory = names := by
  rw [FileSystem.names, written]
  exact List.mergeSort_of_pairwise sorted

theorem visits_from_files {rules : WalkRules} {folder : Path} {directory : Location}
    (located : system.locate folder = .ok directory) {names : List String}
    (files : ∀ name ∈ names, ∃ content,
      system.lookup? (directory ++ [name]) = some (.file content)) (entered : List Location) :
    system.visitsFrom rules entered (names.map folder.child) =
      ((names.filter rules.wants).map folder.child).map .file := by
  induction names with
  | nil =>
      rw [List.map_nil, visitsFrom]
      rfl
  | cons name rest induction =>
      obtain ⟨content, there⟩ := files name List.mem_cons_self
      have later := induction fun other member => files other (List.mem_cons_of_mem name member)
      rw [List.map_cons, visitsFrom, place_plain located there (by simp)]
      simp only [there]
      rw [later, Path.last_name_child]
      by_cases wanted : rules.wants name = true
      · rw [if_pos wanted, List.filter_cons, if_pos wanted, List.map_cons, List.map_cons]
      · rw [if_neg wanted, List.filter_cons, if_neg wanted]

theorem go_along_files (spent : Fault) (deepest : Nat) (files : List Path) :
    goAlong spent deepest (files.map .file) = ⟨files, none⟩ := by
  induction files with
  | nil => rfl
  | cons path rest induction => rw [List.map_cons, goAlong, induction]

theorem walked_of_located {rules : WalkRules} {directory : Path} {location : Location}
    (there : system.isDirectory directory = .ok true)
    (located : system.locate directory = .ok location) :
    system.walked rules directory =
      goAlong system.platform.walkRoom.fault
        (directory.names.length + system.platform.walkRoom.levels)
        (system.visitsFrom rules [system.realNames directory]
          (system.visible rules directory location)) := by
  rw [walked, there, located]

theorem walk_files {rules : WalkRules} {folder : Path} {directory : Location}
    (there : system.isDirectory folder = .ok true) (located : system.locate folder = .ok directory)
    {names : List String} (held : system.names directory = names)
    (files : ∀ name ∈ names, ∃ content,
      system.lookup? (directory ++ [name]) = some (.file content)) :
    system.walk rules folder = .ok ((names.filter rules.wants).map folder.child) := by
  have visible : system.visible rules folder directory = names.map folder.child := by
    rw [FileSystem.visible, located, held]
    dsimp only
    congr 1
    rw [List.filter_eq_self]
    intro name member
    obtain ⟨content, found⟩ := files name member
    rw [found]
    exact Bool.or_true _
  rw [walk, walked_of_located there located, visible, visits_from_files located files,
    go_along_files]
  rfl

section Put

variable {system : FileSystem} {location : Location}

theorem lookup_put (below : location ≠ []) (entry : Entry) (other : Location) :
    (system.put location entry).lookup? other =
      if other = location then some entry else system.lookup? other := by
  have placed : ∀ entries : List (Location × Entry),
      (put.place location entry entries).lookup other =
        if other = location then some entry else entries.lookup other := by
    intro entries
    induction entries with
    | nil =>
        rw [put.place, List.lookup_cons]
        by_cases here : other = location
        · rw [if_pos here, beq_iff_eq.2 here]
        · rw [if_neg here, beq_false_of_ne here, List.lookup_nil]
    | cons known rest induction =>
        rw [put.place]
        split
        next same =>
          rw [List.lookup_cons, List.lookup_cons, same]
          by_cases here : other = location
          · rw [if_pos here, beq_iff_eq.2 here]
          · rw [if_neg here, beq_false_of_ne here]
        next different =>
          rw [List.lookup_cons, List.lookup_cons, induction]
          by_cases here : other = location
          · rw [if_pos here, if_pos here, beq_false_of_ne (here ▸ Ne.symm different)]
          · rw [if_neg here, if_neg here]
  cases other with
  | nil =>
      rw [if_neg (Ne.symm below)]
      rfl
  | cons name names => exact placed system.entries

theorem lookup_put_here (below : location ≠ []) (entry : Entry) :
    (system.put location entry).lookup? location = some entry := by
  rw [lookup_put below, if_pos rfl]

theorem lookup_put_apart (below : location ≠ []) (entry : Entry) {other : Location}
    (apart : other ≠ location) :
    (system.put location entry).lookup? other = system.lookup? other := by
  rw [lookup_put below, if_neg apart]

theorem missing_of_free {through : Bool} {links : Nat} {here : Location} {steps : List String}
    (arrived : system.follow through links here steps = .ok (.free location)) :
    location ≠ [] ∧ system.lookup? location = none := by
  generalize ended : Arrival.free location = arrival at arrived
  replace arrived := followed_iff.1 arrived
  induction arrived with
  | nothing => cases ended
  | idle directory idle onward induction => exact induction ended
  | up directory onward induction => exact induction ended
  | free looks missing =>
      cases ended
      exact ⟨by simp, missing⟩
  | last => cases ended
  | link looks there followed onward induction => exact induction ended
  | entry looks there plain onward induction => exact induction ended

end Put

section Up

/-- As on a disk, what is there lies in a directory. -/
def Held (system : FileSystem) : Prop :=
  ∀ location name entry, system.lookup? (location ++ [name]) = some entry →
    system.isDirectoryAt location = true

/-- A step up comes out in a directory, whatever was gone through before. -/
theorem directory_of_up (held : system.Held) {links : Nat} {here location : Location}
    {steps : List String} (last : steps.getLast? = some "..")
    (followed : system.follow true links here steps = .ok (.entry location)) :
    system.isDirectoryAt location = true := by
  have later : ∀ {step : String} {rest : List String}, step ≠ ".." →
      (step :: rest).getLast? = some ".." → rest.getLast? = some ".." := by
    intro step rest other last
    cases rest with
    | nil => exact absurd (by simpa using last) other
    | cons next more => rwa [List.getLast?_cons_cons] at last
  generalize ended : Arrival.entry location = arrival at followed
  replace followed := followed_iff.1 followed
  induction followed with
  | nothing => cases last
  | idle directory idle onward induction =>
      refine induction (later ?_ last) ended
      rcases idle with rfl | rfl <;> decide
  | @up links here rest arrival directory onward induction =>
      cases rest with
      | cons next more =>
          rw [List.getLast?_cons_cons] at last
          exact induction last ended
      | nil =>
          cases onward
          cases ended
          rcases List.eq_nil_or_concat here with rfl | ⟨above, name, rfl⟩
          · rfl
          · rw [List.concat_eq_append] at directory ⊢
            rw [List.dropLast_concat]
            exact held above name .directory (by simpa [isDirectoryAt] using directory)
  | free => cases ended
  | last looks there stays => cases stays
  | link looks there onward rest induction =>
      refine induction ?_ ended
      rw [List.getLast?_append, later looks.down.down last]
      rfl
  | entry looks there plain onward induction =>
      exact induction (later looks.down.down last) ended

end Up

end ImportImpact.FileSystem

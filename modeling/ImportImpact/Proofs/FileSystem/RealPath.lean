import ImportImpact.FileSystem.RealPath
import ImportImpact.Proofs.FileSystem.Entries
import Mathlib.Data.List.Induction
import Mathlib.Data.Nat.Find

/-!
What a path leads to lies at its real path, if no link lies so deep that it cannot be looked at
under its own path. Both go through links, each in its own way: the look-up follows every link again
and counts them, the real path keeps in mind where a link led, and which ones it is still inside.
The counting excludes that it is inside a link when it comes to this link again.
-/

namespace ImportImpact.FileSystem

variable {system : FileSystem}

/-- Every link can be looked at under the path of the place where it lies. -/
def LinksInReach (system : FileSystem) : Prop :=
  ∀ location target, system.lookup? location = some (.link target) →
    (Path.text ⟨.root, location⟩).utf8ByteSize < longestPath

theorem links_in_reach (short : ∀ entry ∈ system.entries,
    (Path.text ⟨.root, entry.1⟩).utf8ByteSize < longestPath) : system.LinksInReach := by
  intro location target there
  cases location with
  | nil => cases there
  | cons name names =>
      obtain ⟨before, after, shape, -⟩ := List.lookup_eq_some_iff.1 there
      exact short (name :: names, .link target) (by simp [shape])

section Follow

variable {links : Nat} {here place : Location} {steps : List String}

theorem follow_more (arrived : system.follow true links here steps = .ok (.entry place))
    {more : Nat} (enough : links ≤ more) :
    system.follow true more here steps = .ok (.entry place) := by
  obtain ⟨left, -, same⟩ := follow_append arrived
  have onward := same (more - links) []
  rwa [List.append_nil, Nat.add_sub_of_le enough, follow_nothing] at onward

theorem follow_unique {other : Location} {more : Nat}
    (first : system.follow true links here steps = .ok (.entry place))
    (second : system.follow true more here steps = .ok (.entry other)) : place = other := by
  have one := follow_more first (Nat.le_max_left links more)
  rw [follow_more second (Nat.le_max_right links more)] at one
  cases one
  rfl

theorem arrives_first {first rest : List String}
    (arrived : system.Arrives true links here (first ++ rest) (.entry place)) :
    ∃ between, system.Arrives true links here first (.entry between) := by
  generalize whole : first ++ rest = steps at arrived
  generalize ended : Arrival.entry place = arrival at arrived
  induction arrived generalizing first with
  | nothing links here =>
      rw [(List.append_eq_nil_iff.1 whole).1]
      exact ⟨here, .nothing links here⟩
  | idle directory idle onward induction =>
      rcases List.append_eq_cons_iff.1 whole with ⟨rfl, -⟩ | ⟨others, rfl, more⟩
      · exact ⟨_, .nothing _ _⟩
      · obtain ⟨between, arrives⟩ := induction more.symm ended
        exact ⟨between, .idle directory idle arrives⟩
  | up directory onward induction =>
      rcases List.append_eq_cons_iff.1 whole with ⟨rfl, -⟩ | ⟨others, rfl, more⟩
      · exact ⟨_, .nothing _ _⟩
      · obtain ⟨between, arrives⟩ := induction more.symm ended
        exact ⟨between, .up directory arrives⟩
  | free => cases ended
  | last looks there stays => cases stays
  | link looks there followed onward induction =>
      rcases List.append_eq_cons_iff.1 whole with ⟨rfl, -⟩ | ⟨others, rfl, rfl⟩
      · exact ⟨_, .nothing _ _⟩
      · obtain ⟨between, arrives⟩ := induction (List.append_assoc _ _ _) ended
        exact ⟨between, .link looks there (goes_through_all _) arrives⟩
  | entry looks there plain onward induction =>
      rcases List.append_eq_cons_iff.1 whole with ⟨rfl, -⟩ | ⟨others, rfl, more⟩
      · exact ⟨_, .nothing _ _⟩
      · obtain ⟨between, arrives⟩ := induction more.symm ended
        exact ⟨between, .entry looks there plain arrives⟩

theorem fewest_links (arrived : system.follow true links here steps = .ok (.entry place)) :
    ∃ fewest ≤ links, system.follow true fewest here steps = .ok (.entry place) ∧
      ∀ fewer < fewest, ∀ other, system.follow true fewer here steps ≠ .ok (.entry other) := by
  classical
  have some_do : ∃ count, system.follow true count here steps = .ok (.entry place) :=
    ⟨links, arrived⟩
  refine ⟨Nat.find some_do, Nat.find_min' some_do arrived, Nat.find_spec some_do, ?_⟩
  intro fewer less other again
  rw [follow_unique again arrived] at again
  exact Nat.find_min some_do less again

end Follow

def Resolves (system : FileSystem) (links : Nat) (link place : Location) : Prop :=
  ∃ here name, link = here ++ [name] ∧ system.follow true links here [name] = .ok (.entry place)

theorem resolves_iff {links : Nat} {here place : Location} {name : String} :
    system.Resolves links (here ++ [name]) place ↔
      system.follow true links here [name] = .ok (.entry place) := by
  constructor
  · rintro ⟨other, last, same, followed⟩
    obtain ⟨rfl, rfl⟩ : here = other ∧ name = last := by simpa using same
    exact followed
  · exact fun followed => ⟨here, name, rfl, followed⟩

def Remembers (system : FileSystem) (resolved : List (Location × Location)) : Prop :=
  ∀ link place, resolved.lookup link = some place → ∃ links, system.Resolves links link place

def WithinLink (resolved : List (Location × Location)) (opened : List Location) (link : Location) :
    Prop :=
  link ∈ opened ∧ resolved.lookup link = none

/-- Where a way arrives that takes no more than so many links the real path arrives too, if so few
links do not lead out of those that it is inside of. It is inside of no further ones then. -/
def RealArrives (system : FileSystem) (links : Nat) : Prop :=
  ∀ (here place : Location) (names : List String) (resolved : List (Location × Location))
    (opened : List Location) (rest : List Pending),
    system.follow true links here names = .ok (.entry place) →
    system.Remembers resolved →
    (∀ link, WithinLink resolved opened link → ∀ other, ¬system.Resolves links link other) →
      ∃ resolvedThen openedThen,
        system.realFrom resolved opened here (names.map .step ++ rest) =
          system.realFrom resolvedThen openedThen place rest ∧
        system.Remembers resolvedThen ∧
        ∀ link, WithinLink resolvedThen openedThen link → WithinLink resolved opened link

section Link

variable {links : Nat} {here place : Location} {name target : String} {names : List String}
  {resolved : List (Location × Location)} {opened : List Location}

/-- The target of a link is gone along with as few links as possible. The link itself takes one
more, so these do not lead out of it. -/
theorem real_from_target (below : ∀ fewer ≤ links, system.RealArrives fewer)
    (looks : system.LooksUp here name)
    (there : system.lookup? (here ++ [name]) = some (.link target))
    (arrived : system.follow true links (if Written.rooted target then [] else here)
      (steps target) = .ok (.entry place))
    (remembers : system.Remembers resolved)
    (stuck : ∀ link, WithinLink resolved opened link →
      ∀ other, ¬system.Resolves (links + 1) link other) (rest : List Pending) :
    ∃ resolvedThen openedThen,
      system.realFrom resolved ((here ++ [name]) :: opened)
        (if Written.rooted target then [] else here)
        ((steps target).map .step ++ .reached (here ++ [name]) :: rest) =
          system.realFrom resolvedThen openedThen place rest ∧
      system.Remembers resolvedThen ∧
      ∀ link, WithinLink resolvedThen openedThen link → WithinLink resolved opened link := by
  have onward : GoesThrough true ([] : List String) := goes_through_all []
  obtain ⟨fewest, fewer, again, least⟩ := fewest_links arrived
  have unresolved : ∀ link, WithinLink resolved ((here ++ [name]) :: opened) link →
      ∀ other, ¬system.Resolves fewest link other := by
    rintro link ⟨member, unknown⟩ other resolves
    rcases List.mem_cons.1 member with rfl | before
    · rw [resolves_iff] at resolves
      cases fewest with
      | zero =>
          rw [looks.follow_spent there onward] at resolves
          cases resolves
      | succ count =>
          rw [looks.follow_link there onward, List.append_nil] at resolves
          exact least count (Nat.lt_succ_self count) other resolves
    · obtain ⟨above, last, rfl, followed⟩ := resolves
      exact stuck _ ⟨before, unknown⟩ other
        (resolves_iff.2 (follow_more followed (Nat.le_succ_of_le fewer)))
  obtain ⟨resolvedThen, openedThen, same, remembersThen, inside⟩ :=
    below fewest fewer _ _ _ _ _ (.reached (here ++ [name]) :: rest) again remembers unresolved
  refine ⟨(here ++ [name], place) :: resolvedThen, openedThen, ?_, ?_, ?_⟩
  · rw [same, realFrom]
  · intro link other known
    rw [List.lookup_cons] at known
    split at known
    next here =>
      obtain rfl := Option.some.inj known
      rw [beq_iff_eq.1 here]
      refine ⟨links + 1, resolves_iff.2 ?_⟩
      rw [looks.follow_link there onward, List.append_nil, arrived]
    next => exact remembersThen link other known
  · rintro link ⟨member, unknown⟩
    rw [List.lookup_cons] at unknown
    split at unknown
    next => cases unknown
    next apart =>
      obtain ⟨before, still⟩ := inside link ⟨member, unknown⟩
      refine ⟨(List.mem_cons.1 before).resolve_left fun same => ?_, still⟩
      simp [same] at apart

/-- A step onto a link: it is known where the link leads, or its target is gone along. -/
theorem real_from_through (below : ∀ fewer ≤ links, system.RealArrives fewer)
    (reach : system.LinksInReach) (looks : system.LooksUp here name)
    (there : system.lookup? (here ++ [name]) = some (.link target))
    (arrived : system.follow true links (if Written.rooted target then [] else here)
      (steps target ++ names) = .ok (.entry place))
    (remembers : system.Remembers resolved)
    (stuck : ∀ link, WithinLink resolved opened link →
      ∀ other, ¬system.Resolves (links + 1) link other) (rest : List Pending) :
    ∃ resolvedThen openedThen,
      system.realFrom resolved opened here (.step name :: (names.map .step ++ rest)) =
        system.realFrom resolvedThen openedThen place rest ∧
      system.Remembers resolvedThen ∧
      ∀ link, WithinLink resolvedThen openedThen link → WithinLink resolved opened link := by
  have seen : system.linkAt? (here ++ [name]) = some target :=
    link_at_iff.2 ⟨reach _ _ there, there⟩
  obtain ⟨between, first⟩ := arrives_first (followed_iff.1 arrived)
  have led := first.followed
  obtain ⟨left, fewer, same⟩ := follow_append led
  have behind : system.follow true left between names = .ok (.entry place) :=
    (same 0 names).symm.trans arrived
  have resolves : system.Resolves (links + 1) (here ++ [name]) between := by
    rw [resolves_iff, looks.follow_link there (goes_through_all _), List.append_nil, led]
  -- What is behind the link is gone along from where it leads, whatever was learnt on the way.
  have onward : ∀ {resolvedThen : List (Location × Location)} {openedThen : List Location},
      system.Remembers resolvedThen →
      (∀ link, WithinLink resolvedThen openedThen link → WithinLink resolved opened link) →
        ∃ resolvedLast openedLast,
          system.realFrom resolvedThen openedThen between (names.map .step ++ rest) =
            system.realFrom resolvedLast openedLast place rest ∧
          system.Remembers resolvedLast ∧
          ∀ link, WithinLink resolvedLast openedLast link → WithinLink resolved opened link := by
    intro resolvedThen openedThen remembersThen inside
    obtain ⟨resolvedLast, openedLast, whole, remembersLast, insideLast⟩ :=
      below left fewer between place names resolvedThen openedThen rest behind remembersThen
        fun link within other ⟨above, last, shape, followed⟩ =>
          stuck link (inside link within) other
            ⟨above, last, shape, follow_more followed (Nat.le_succ_of_le fewer)⟩
    exact ⟨resolvedLast, openedLast, whole, remembersLast,
      fun link within => inside link (insideLast link within)⟩
  rw [real_from_link (by simp [looks.down.filled, looks.down.moves]) looks.down.down seen]
  cases known : resolved.lookup (here ++ [name]) with
  | some other =>
      obtain ⟨enough, resolvesToo⟩ := remembers _ other known
      rw [follow_unique (resolves_iff.1 resolvesToo) (resolves_iff.1 resolves)]
      exact onward remembers fun link within => within
  | none =>
      have outside : here ++ [name] ∉ opened := fun member =>
        stuck _ ⟨member, known⟩ between resolves
      obtain ⟨resolvedThen, openedThen, target, remembersThen, inside⟩ :=
        real_from_target below looks there led remembers stuck (names.map .step ++ rest)
      dsimp only
      rw [if_neg outside, target]
      exact onward remembersThen inside

end Link

/-- By induction on the links, and on the steps for so many of them. -/
theorem real_arrives (reach : system.LinksInReach) (links : Nat) : system.RealArrives links := by
  induction links using Nat.strong_induction_on with
  | h links below =>
    intro here place names
    induction names generalizing here with
    | nil =>
        intro resolved opened rest arrived remembers stuck
        rw [follow_nothing] at arrived
        cases arrived
        exact ⟨resolved, opened, rfl, remembers, fun _ within => within⟩
    | cons name names induction =>
        intro resolved opened rest arrived remembers stuck
        rw [List.map_cons, List.cons_append]
        cases followed_iff.1 arrived with
        | idle directory idle onward =>
            rw [realFrom, if_pos (by simpa using idle)]
            exact induction here resolved opened rest onward.followed remembers stuck
        | up directory onward =>
            rw [realFrom, if_neg (by decide), if_pos rfl]
            exact induction here.dropLast resolved opened rest onward.followed remembers stuck
        | last looks there stays => cases stays
        | link looks there goes onward =>
            exact real_from_through (fun fewer less => below fewer (Nat.lt_succ_of_le less)) reach
              looks there onward.followed remembers stuck rest
        | @entry _ _ _ _ found _ looks there plain onward =>
            rw [real_from_plain (by simp [looks.down.filled, looks.down.moves]) looks.down.down
              (link_at_none fun target link => plain target (by simpa [there] using link))]
            exact induction (here ++ [name]) resolved opened rest onward.followed remembers stuck

theorem real_path_of_located (reach : system.LinksInReach) {path : Path} {location : Location}
    (located : system.locate path = .ok location) :
    system.realPath path = ⟨.root, location⟩ := by
  obtain ⟨resolved, opened, same, -⟩ := real_arrives reach mostLinks (system.start path) location
    path.names [] [] [] (located_iff.1 located).2 nofun (fun _ within => nomatch within.1)
  rw [List.append_nil, realFrom] at same
  rw [realPath, same]

section Extend

theorem evaluate_append (steps : List String) {names : List String}
    (down : ∀ name ∈ names, Downward name) :
    evaluate (steps ++ names) = evaluate steps ++ names := by
  induction names using List.reverseRecOn with
  | nil => simp
  | append_singleton names name induction =>
      obtain ⟨before, last⟩ := List.forall_mem_append.1 down
      have goes := last name (List.mem_singleton_self name)
      rw [← List.append_assoc, ← List.append_assoc, ← induction before]
      have busy : Segment.idle name.toList = false := by
        have moves : name.toList ≠ ['.'] := fun dot =>
          goes.moves (String.toList_injective (dot.trans (by decide)))
        simp [Segment.idle, goes.filled, moves]
      have up : name.toList ≠ Segment.up := fun up =>
        goes.down (String.toList_injective (up.trans (by decide)))
      simp [evaluate, Segment.reduce, Segment.advance, busy, up]

theorem real_from_names (resolved : List (Location × Location)) (opened : List Location)
    {here : Location} {names : List String} (down : ∀ name ∈ names, Downward name)
    (plain : ∀ passed, passed <+: names → passed ≠ [] →
      ∀ target, system.lookup? (here ++ passed) ≠ some (.link target)) :
    system.realFrom resolved opened here (names.map .step) = here ++ names := by
  induction names generalizing here with
  | nil => simp [realFrom]
  | cons name names induction =>
      obtain ⟨first, later⟩ := List.forall_mem_cons.1 down
      have next := plain [name] (List.prefix_append [name] names) (List.cons_ne_nil _ _)
      have onward : system.realFrom resolved opened (here ++ [name]) (names.map .step) =
          here ++ [name] ++ names := induction later fun passed shorter _ target => by
        rw [← List.append_cons]
        exact plain (name :: passed) ((List.prefix_cons_inj name).2 shorter)
          (List.cons_ne_nil _ _) target
      rw [List.map_cons, real_from_plain (by simp [first.filled, first.moves]) first.down
        (link_at_none next), onward, ← List.append_cons]

/-- Further names behind a real path are kept, where none of them is seen as a link. -/
theorem real_from_append {resolved : List (Location × Location)} {opened : List Location}
    {here : Location} {pending : List Pending} {names : List String}
    (down : ∀ name ∈ names, Downward name)
    (plain : ∀ passed, passed <+: names → passed ≠ [] →
      ∀ target, system.lookup? (system.realFrom resolved opened here pending ++ passed) ≠
        some (.link target)) :
    system.realFrom resolved opened here (pending ++ names.map .step) =
      system.realFrom resolved opened here pending ++ names := by
  fun_induction realFrom system resolved opened here pending with
  | case1 resolved opened here =>
      exact real_from_names resolved opened down (by simpa [realFrom] using plain)
  | case2 resolved opened here link rest induction =>
      rw [List.cons_append, realFrom]
      exact induction plain
  | case3 resolved opened here name rest idle induction =>
      rw [List.cons_append, realFrom, if_pos idle]
      exact induction plain
  | case4 resolved opened here rest busy induction =>
      rw [List.cons_append, realFrom, if_neg busy, if_pos rfl]
      exact induction plain
  | case5 resolved opened here name rest busy goes target link place known induction =>
      rw [List.cons_append, real_from_link busy goes link, known]
      exact induction plain
  | case6 resolved opened here name rest busy goes target link unknown met =>
      rw [List.cons_append, real_from_link busy goes link, unknown]
      dsimp only
      rw [if_pos met, List.filterMap_append, List.filterMap_map, ← List.append_assoc]
      have kept : names.filterMap (Pending.name? ∘ .step) = names := by
        simp [Function.comp_def, Pending.name?]
      rw [kept, evaluate_append _ down]
  | case7 resolved opened here name rest busy goes target link unknown fresh induction =>
      rw [List.cons_append, real_from_link busy goes link, unknown]
      dsimp only
      rw [if_neg fresh]
      simpa using induction plain
  | case8 resolved opened here name rest busy goes unseen induction =>
      rw [List.cons_append, real_from_plain busy goes unseen]
      exact induction plain

theorem real_path_extend {path : Path} {location : Location} {names : List String}
    (real : system.realPath path = ⟨.root, location⟩) (down : ∀ name ∈ names, Downward name)
    (plain : ∀ passed, passed <+: names → passed ≠ [] →
      ∀ target, system.lookup? (location ++ passed) ≠ some (.link target)) :
    system.realPath (path.extend names) = ⟨.root, location ++ names⟩ := by
  have ends : system.realFrom [] [] (system.start path) (path.names.map .step) = location :=
    congrArg Path.names real
  have same : system.start (path.extend names) = system.start path := rfl
  rw [realPath, same, Path.extend, List.map_append, real_from_append down (by rwa [ends]), ends]

end Extend

/-- So a walk tells directories apart by where they lie. -/
theorem real_path_of_placed (reach : system.LinksInReach) {folder : Path} {name : String}
    {location : Location} (named : isName name = true)
    (placed : system.place (folder.child name) = .ok location) :
    system.realPath (folder.child name) = ⟨.root, location⟩ := by
  obtain ⟨directory, located⟩ := located_of_placed placed
  cases there : system.lookup? (directory ++ [name]) with
  | none =>
      rw [place, Path.parent_child, Path.last_name_child, located] at placed
      simp [there, bind, Except.bind] at placed
  | some entry =>
      by_cases link : ∃ target, entry = .link target
      · obtain ⟨target, rfl⟩ := link
        rw [place_link located there] at placed
        exact real_path_of_located reach placed
      · have plain : ∀ target, entry ≠ .link target := fun target same => link ⟨target, same⟩
        rw [place_plain located there plain] at placed
        cases placed
        refine real_path_extend (real_path_of_located reach located)
          (List.forall_mem_singleton.2 (downward_of_name named))
          fun passed shorter filled target seen => ?_
        have extended : passed <+: [] ++ [name] := shorter
        obtain rfl := (List.prefix_concat_iff.1 extended).resolve_right
          fun empty => filled (List.prefix_nil.1 empty)
        exact plain target (by simpa [there] using seen)

end ImportImpact.FileSystem

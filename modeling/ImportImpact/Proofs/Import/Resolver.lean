import ImportImpact.Proofs.Outcome
import ImportImpact.Proofs.Path.Inside

/-!
Where the resolver looks. For one path it tries a few spellings. A rooted path, to which only an
importer whose name starts with a backslash can lead, has rooted ones. A path inside the repository
has spellings that depend on the settings; where these keep to the repository, what is outside never
decides about a path inside.
-/

namespace ImportImpact

open FileSystem ImportImpact.Path Written

theorem normal_of_candidate {specifier importer candidate : String}
    (given : candidate? specifier importer = some candidate) :
    isLocalSpecifier specifier = true ∧ candidate = normal (specifiedPath specifier importer) ∧
      leavesRepository candidate = false := by
  unfold candidate? at given
  split at given
  · cases given
  next stays =>
    dsimp only at given
    split at given
    · cases given
    · split at given
      · cases given
      next kept =>
        obtain rfl := Option.some.inj given
        exact ⟨by simpa using stays, rfl, by simpa using kept⟩

theorem candidate_place {specifier importer candidate : String}
    (given : candidate? specifier importer = some candidate) :
    rooted candidate = true ∨ ∃ names : List String, names ≠ [] ∧
      candidate = text ⟨.relative, names⟩ ∧ ∀ name ∈ names, isName name = true := by
  obtain ⟨-, rfl, stays⟩ := normal_of_candidate given
  by_cases relative : (specifiedPath specifier importer).toList.head? = some slash
  · exact Or.inl (rooted_normal relative)
  · exact Or.inr (inside_of_stays relative stays)

/-- A specifier never leads to the repository root itself. -/
theorem candidate_named {specifier importer candidate : String}
    (given : candidate? specifier importer = some candidate) : candidate ≠ "." := by
  obtain ⟨-, -, stays⟩ := normal_of_candidate given
  rintro rfl
  revert stays
  decide

/-- The extensions and the index are texts, and all spellings that they give a path inside the
repository are of this kind. -/
def TriesOnly (extensions indexName : Value) (kind : String → Prop) : Prop :=
  ∀ values, extensions.elements = .ok values → ∀ value ∈ values, ∃ extension index,
    value = .str extension ∧ indexName = .str index ∧ ∀ path, Inside path → path ≠ "." →
      kind (path ++ extension) ∧ kind (joined path (index ++ extension))

theorem TriesOnly.mono {extensions indexName : Value} {kind wider : String → Prop}
    (tries : TriesOnly extensions indexName kind) (wide : ∀ path, kind path → wider path) :
    TriesOnly extensions indexName wider := by
  intro values listed value member
  obtain ⟨extension, index, text, indexed, tried⟩ := tries values listed value member
  exact ⟨extension, index, text, indexed, fun path inside named =>
    (tried path inside named).imp (wide _) (wide _)⟩

def AllTexts (extensions indexName : Value) : Prop :=
  ∀ values, extensions.elements = .ok values → ∀ value ∈ values, ∃ extension index,
    value = .str extension ∧ indexName = .str index

/-- All spellings that texts among the extensions give a path inside the repository are of this
kind. -/
def SpellsOnly (extensions indexName : Value) (kind : String → Prop) : Prop :=
  ∀ values, extensions.elements = .ok values → ∀ extension, .str extension ∈ values →
    ∀ path, Inside path → path ≠ "." → kind (path ++ extension) ∧
      ∀ index, indexName = .str index → kind (joined path (index ++ extension))

section Tries

variable {extensions indexName : Value} {kind wider : String → Prop}

theorem TriesOnly.all_texts (tries : TriesOnly extensions indexName kind) :
    AllTexts extensions indexName := by
  intro values listed value member
  obtain ⟨extension, index, text, indexed, -⟩ := tries values listed value member
  exact ⟨extension, index, text, indexed⟩

theorem TriesOnly.spells (tries : TriesOnly extensions indexName kind) :
    SpellsOnly extensions indexName kind := by
  intro values listed extension member path inside named
  obtain ⟨again, index, text, indexed, tried⟩ := tries values listed _ member
  cases text
  refine ⟨(tried path inside named).1, fun other given => ?_⟩
  cases indexed.symm.trans given
  exact (tried path inside named).2

theorem SpellsOnly.mono (spells : SpellsOnly extensions indexName kind)
    (wide : ∀ path, kind path → wider path) : SpellsOnly extensions indexName wider := by
  intro values listed extension member path inside named
  obtain ⟨beside, below⟩ := spells values listed extension member path inside named
  exact ⟨wide _ beside, fun index indexed => wide _ (below index indexed)⟩

end Tries

theorem tries_inside {extensions : List String} {index : String} (indexed : isName index = true)
    (plain : ∀ extension ∈ extensions, slash ∉ extension.toList) :
    TriesOnly (.list (extensions.map .str)) (.str index) Inside := by
  intro values listed value member
  cases listed
  obtain ⟨extension, known, rfl⟩ := List.mem_map.1 member
  refine ⟨extension, index, rfl, rfl, fun path inside named => ?_⟩
  have spelled := spelled_of_inside inside named
  have child := is_name_append indexed (plain extension known)
  rw [spelled.joined_eq (not_rooted_of_name child)]
  exact ⟨(spelled.append (plain extension known)).inside, (spelled.below child).inside⟩

namespace Resolver

variable {resolver other : Resolver}

theorem has_file_iff {path : String} : resolver.hasFile path = true ↔
    resolver.system.isFile (resolver.root.join path) = .ok true := by
  delta hasFile
  cases resolver.system.isFile (resolver.root.join path) with
  | error fault => simp
  | ok found => simp

section FirstFile

variable {spell : Value → Outcome String} {values : List Value}

theorem has_file_of_first {path : String}
    (found : resolver.firstFile spell values = .ok (some path)) : resolver.hasFile path = true := by
  induction values with
  | nil => cases found
  | cons value rest induction =>
      obtain ⟨tried, -, found⟩ := Outcome.bind_ok_iff.1 found
      split at found
      next there =>
        cases found
        exact there
      · exact induction found

theorem first_file_of_file {path : String} {value : Value} (spelled : spell value = .ok path)
    (there : resolver.hasFile path = true) (rest : List Value) :
    resolver.firstFile spell (value :: rest) = .ok (some path) := by
  rw [firstFile, spelled]
  exact if_pos there

theorem first_file_of_missing {path : String} {value : Value} (spelled : spell value = .ok path)
    (missing : resolver.hasFile path = false) (rest : List Value) :
    resolver.firstFile spell (value :: rest) = resolver.firstFile spell rest := by
  rw [firstFile, spelled]
  exact if_neg (by simp [missing])

theorem first_file_congr
    (same : ∀ value ∈ values, ∀ path, spell value = .ok path →
      other.hasFile path = resolver.hasFile path) :
    other.firstFile spell values = resolver.firstFile spell values := by
  induction values with
  | nil => rfl
  | cons value rest induction =>
      rw [firstFile, firstFile]
      apply Outcome.bind_congr_ok
      intro path spelled
      rw [same value List.mem_cons_self path spelled,
        induction fun later member => same later (List.mem_cons_of_mem value member)]

theorem first_file_rooted (resolver : Resolver)
    (outside : ∀ value ∈ values, ∃ path, spell value = .ok path ∧ rooted path = true) :
    ∃ found, resolver.firstFile spell values = .ok found ∧ found.filter (!rooted ·) = none := by
  induction values with
  | nil => exact ⟨none, rfl, rfl⟩
  | cons value rest induction =>
      obtain ⟨path, spelled, leads⟩ := outside value List.mem_cons_self
      obtain ⟨later, found, dropped⟩ := induction fun later member =>
        outside later (List.mem_cons_of_mem value member)
      rw [firstFile, spelled]
      simp only [bind, Except.bind]
      split
      · exact ⟨some path, rfl, by simp [leads]⟩
      · exact ⟨later, found, dropped⟩

end FirstFile

theorem index_spelled {candidate extension index : String} {value indexName : Value}
    (text : value = .str extension) (indexed : indexName = .str index) :
    (do pure (joined candidate (← indexFile indexName value)) : Outcome String) =
      .ok (joined candidate (index ++ extension)) := by
  rw [text, indexed]
  rfl

theorem appended_ok_iff {text path : String} {value : Value} :
    appended text value = .ok path ↔ ∃ more, value = .str more ∧ path = text ++ more := by
  cases value <;> simp [appended, Value.misused, eq_comm]

theorem exists_index_spelled {candidate path : String} {value indexName : Value}
    (spelled : (do pure (joined candidate (← indexFile indexName value)) : Outcome String) =
      .ok path) :
    ∃ extension index, value = .str extension ∧ indexName = .str index ∧
      path = joined candidate (index ++ extension) := by
  obtain ⟨file, named, spelled⟩ := Outcome.bind_ok_iff.1 spelled
  rw [Outcome.pure_ok_iff] at spelled
  unfold indexFile at named
  split at named
  · obtain ⟨extension, text, rfl⟩ := appended_ok_iff.1 named
    exact ⟨extension, _, text, rfl, spelled.symm⟩
  · cases named
  · cases named

theorem has_file_of_candidate {candidate target : String}
    (resolved : resolver.resolveCandidate candidate = .ok (some target)) :
    resolver.hasFile target = true := by
  unfold resolveCandidate at resolved
  split at resolved
  · split at resolved
    next there =>
      cases resolved
      exact there
    · cases resolved
  · obtain ⟨values, -, resolved⟩ := Outcome.bind_ok_iff.1 resolved
    obtain ⟨found, first, resolved⟩ := Outcome.bind_ok_iff.1 resolved
    cases found with
    | some path =>
        cases resolved
        exact has_file_of_first first
    | none => exact has_file_of_first resolved

theorem has_file_of_resolve {specifier importer target : String}
    (resolved : resolver.resolve specifier importer = .ok (some target)) :
    resolver.hasFile target = true := by
  unfold resolve at resolved
  split at resolved
  · cases resolved
  · exact has_file_of_candidate resolved

/-- Where no suffix is spelled, the extensions are tried first, and a fault there is final. -/
theorem resolve_without_suffix {specifier importer candidate : String} {extensions : List Value}
    (given : candidate? specifier importer = some candidate) (bare : suffix candidate = "")
    (listed : resolver.extensions = .list extensions) :
    resolver.resolve specifier importer =
      resolver.firstFile (appended candidate) extensions >>= fun found =>
        match found with
        | some path => pure (some path)
        | none => resolver.firstFile (fun extension => do
            pure (joined candidate (← indexFile resolver.indexName extension))) extensions := by
  rw [resolve, given]
  dsimp only
  rw [resolveCandidate, if_neg (by simp [bare]), listed]
  rfl

section Congruence

variable (extensions : other.extensions = resolver.extensions)
  (index : other.indexName = resolver.indexName)

include extensions index

theorem resolve_candidate_congr {candidate : String}
    (exact : other.hasFile candidate = resolver.hasFile candidate)
    (added : ∀ values, resolver.extensions.elements = .ok values → ∀ value ∈ values, ∀ path,
      appended candidate value = .ok path → other.hasFile path = resolver.hasFile path)
    (indexed : ∀ values, resolver.extensions.elements = .ok values → ∀ value ∈ values, ∀ path,
      (do pure (joined candidate (← indexFile resolver.indexName value)) : Outcome String) =
        .ok path → other.hasFile path = resolver.hasFile path) :
    other.resolveCandidate candidate = resolver.resolveCandidate candidate := by
  unfold resolveCandidate
  rw [exact, extensions, index]
  split
  · rfl
  · apply Outcome.bind_congr_ok
    intro values listed
    rw [first_file_congr (added values listed), first_file_congr (indexed values listed)]

theorem resolve_over (files : ∀ path, other.hasFile path = resolver.hasFile path)
    (specifier importer : String) :
    other.resolve specifier importer = resolver.resolve specifier importer := by
  unfold resolve
  cases candidate? specifier importer with
  | none => rfl
  | some candidate =>
      exact resolve_candidate_congr extensions index (files candidate)
        (fun _ _ _ _ path _ => files path) (fun _ _ _ _ path _ => files path)

omit extensions index in
theorem resolve_rooted (texts : AllTexts resolver.extensions resolver.indexName)
    {candidate : String}
    (outside : rooted candidate = true) :
    (resolver.resolveCandidate candidate).map (Option.filter (!rooted ·)) =
      if suffix candidate ≠ "" then .ok none
      else resolver.extensions.elements.map fun _ => none := by
  unfold resolveCandidate
  split
  · split
    · simp [Except.map, outside]
    · rfl
  · cases listed : resolver.extensions.elements with
    | error fault => rfl
    | ok values =>
        have added : ∀ value ∈ values, ∃ path, appended candidate value = .ok path ∧
            rooted path = true := by
          intro value member
          obtain ⟨extension, -, rfl, -⟩ := texts values listed value member
          exact ⟨_, rfl, rooted_append outside extension⟩
        have indexed : ∀ value ∈ values, ∃ path,
            (do pure (joined candidate (← indexFile resolver.indexName value)) : Outcome String) =
              .ok path ∧ rooted path = true := by
          intro value member
          obtain ⟨extension, index, text, indexed⟩ := texts values listed value member
          exact ⟨_, index_spelled text indexed, rooted_joined outside _⟩
        obtain ⟨beside, found, dropped⟩ := resolver.first_file_rooted added
        obtain ⟨below, foundToo, droppedToo⟩ := resolver.first_file_rooted indexed
        simp only [bind, Except.bind] at foundToo ⊢
        rw [found]
        cases beside with
        | some path => exact congrArg Except.ok dropped
        | none =>
            dsimp only
            rw [foundToo]
            exact congrArg Except.ok droppedToo

/-- Resolvers that see the same files inside the repository come to the same files, but for rooted
paths. To these only some importers lead, and texts can always be appended to them. -/
theorem resolve_congr
    (inside : ∀ path, Inside path → other.hasFile path = resolver.hasFile path)
    (spells : SpellsOnly resolver.extensions resolver.indexName fun path =>
      other.hasFile path = resolver.hasFile path) {specifier importer : String}
    (apart : AllTexts resolver.extensions resolver.indexName ∨
      ∀ candidate, candidate? specifier importer = some candidate → rooted candidate = false) :
    (other.resolve specifier importer).map (Option.filter (!rooted ·)) =
      (resolver.resolve specifier importer).map (Option.filter (!rooted ·)) := by
  unfold resolve
  cases given : candidate? specifier importer with
  | none => rfl
  | some candidate =>
      dsimp only
      rcases candidate_place given with outside | ⟨names, some, rfl, named⟩
      · rcases apart with texts | within
        · have textsToo : AllTexts other.extensions other.indexName := by
            rw [extensions, index]
            exact texts
          rw [resolve_rooted textsToo outside, resolve_rooted texts outside, extensions]
        · rw [within candidate given] at outside
          cases outside
      · have within : Inside (text ⟨.relative, names⟩) := ⟨names, rfl, named⟩
        have leads : text ⟨.relative, names⟩ ≠ "." := candidate_named given
        rw [resolve_candidate_congr extensions index (inside _ within)]
        · intro values listed value member path spelled
          obtain ⟨extension, rfl, rfl⟩ := appended_ok_iff.1 spelled
          exact (spells values listed extension member _ within leads).1
        · intro values listed value member path spelled
          obtain ⟨extension, name, rfl, indexed, rfl⟩ := exists_index_spelled spelled
          exact (spells values listed extension member _ within leads).2 name indexed

end Congruence

end Resolver

end ImportImpact

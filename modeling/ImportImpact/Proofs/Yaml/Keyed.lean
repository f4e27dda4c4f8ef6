import ImportImpact.Proofs.Value.Keyed
import ImportImpact.Yaml.Reader

/-!
What reading YAML gives. Mappings are made of the entries that are read, so none has a text as a key
twice, wherever it stands in the document.
-/

namespace ImportImpact.Yaml

variable {First Further : Type}

theorem done_of_bind {first : Except Trouble First} {next : First → Except Trouble Further}
    {result : Further} (done : first >>= next = .ok result) :
    ∃ read, first = .ok read ∧ next read = .ok result := by
  cases first with
  | error trouble => cases done
  | ok read => exact ⟨read, rfl, done⟩

theorem scalar_keyed {content : Scalar} {value : Value} (known : content.value = .ok value) :
    value.Keyed := by
  unfold Scalar.value at known
  split at known
  · cases known
    exact .str _
  · split at known <;> cases known <;> constructor

namespace Node

mutual

theorem value_keyed : ∀ (node : Node) {value : Value}, node.value = .ok value → value.Keyed
  | .scalar content, value, known => scalar_keyed (by rwa [Node.value] at known)
  | .sequence items, value, known => by
      rw [Node.value] at known
      obtain ⟨values, read, same⟩ := done_of_bind known
      cases same
      exact .list (items_keyed items read)
  | .mapping entries, value, known => by
      rw [Node.value] at known
      obtain ⟨values, read, same⟩ := done_of_bind known
      cases same
      exact Value.keyed_of_entries (entries_keyed entries read)

theorem items_keyed : ∀ (items : List Node) {values : List Value},
    itemValues items = .ok values → ∀ item ∈ values, item.Keyed
  | [], values, known => by
      cases known
      exact fun _ member => absurd member List.not_mem_nil
  | first :: rest, values, known => by
      rw [itemValues] at known
      obtain ⟨value, here, known⟩ := done_of_bind known
      obtain ⟨others, later, same⟩ := done_of_bind known
      cases same
      exact List.forall_mem_cons.2 ⟨value_keyed first here, items_keyed rest later⟩

theorem entries_keyed : ∀ (entries : List (Scalar × Node)) {values : List (Value × Value)},
    entryValues entries = .ok values → ∀ entry ∈ values, entry.2.Keyed
  | [], values, known => by
      cases known
      exact fun _ member => absurd member List.not_mem_nil
  | (key, node) :: rest, values, known => by
      rw [entryValues] at known
      obtain ⟨name, -, known⟩ := done_of_bind known
      obtain ⟨value, here, known⟩ := done_of_bind known
      obtain ⟨others, later, same⟩ := done_of_bind known
      cases same
      exact List.forall_mem_cons.2 ⟨value_keyed node here, entries_keyed rest later⟩

end

end Node

theorem keyed_of_read {document : String} {value : Value} (done : read document = .ok value) :
    value.Keyed := by
  unfold read at done
  split at done
  · next node _ =>
    cases known : node.value with
    | ok _ =>
        rw [known] at done
        cases done
        exact Node.value_keyed node known
    | error _ =>
        rw [known] at done
        cases done
  · cases done

end ImportImpact.Yaml

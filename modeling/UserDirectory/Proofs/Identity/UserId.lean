import UserDirectory.Identity.UserId

/-!
# Ids and their texts

The text of an id is read as the id, and no other text is. The name of a provider holds no tilde, so
the first tilde of a text parts the provider from the subject.
-/
namespace UserDirectory.UserId

open Text

theorem tilde_not_mem_name (p : Provider) : '~' ∉ p.name.toList := by cases p <;> decide

theorem toList_text (id : UserId) :
    id.text.toList = id.provider.name.toList ++ '~' :: id.subject.toList := by
  simp [text]

theorem cut?_text (id : UserId) :
    cut? '~' id.text.toList = some (id.provider.name.toList, id.subject.toList) :=
  cut?_eq_some_iff.2 ⟨toList_text id, tilde_not_mem_name id.provider⟩

@[simp] theorem parse_text (id : UserId) : parse id.text = .ok id := by
  simp only [parse, cut?_text, String.ofList_toList, make_name_subject]

theorem ofSubject_eq_ok {p : Provider} {s : String} {id : UserId} (h : ofSubject p s = .ok id) :
    id.provider = p ∧ id.subject = s := by
  unfold ofSubject at h
  split at h
  · cases h
    exact ⟨rfl, rfl⟩
  · cases h

theorem make_eq_ok {p s : String} {id : UserId} (h : make p s = .ok id) :
    id.provider.name = p ∧ id.subject = s := by
  unfold make at h
  split at h
  · cases h
  · rename_i provider known
    obtain ⟨rfl, rfl⟩ := ofSubject_eq_ok h
    exact ⟨Provider.ofName?_eq_some_iff.1 known, rfl⟩

theorem text_eq_of_parse {s : String} {id : UserId} (h : parse s = .ok id) : id.text = s := by
  unfold parse at h
  split at h
  · cases h
  · rename_i provider subject found
    obtain ⟨name, rest⟩ := make_eq_ok h
    apply String.toList_inj.1
    rw [toList_text, name, rest, String.toList_ofList, String.toList_ofList]
    exact (cut?_eq_some_iff.1 found).1.symm

theorem text_injective {a b : UserId} (h : a.text = b.text) : a = b := by
  have parsed := parse_text a
  rw [h, parse_text] at parsed
  exact (Except.ok.inj parsed).symm

@[simp] theorem text_inj {a b : UserId} : a.text = b.text ↔ a = b := ⟨text_injective, congrArg text⟩

theorem text_ne_empty (id : UserId) : id.text ≠ "" := by
  intro h
  have chars := toList_text id
  rw [h] at chars
  simp at chars

end UserDirectory.UserId

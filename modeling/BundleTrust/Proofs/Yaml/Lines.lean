import BundleTrust.Yaml.Writer

/-!
# Mappings written line by line

A mapping at the root of a document is written as the lines of its members one after the
other.  Two such mappings that differ in one member are therefore written alike only if that
member is.
-/

namespace BundleTrust
namespace Yaml

/-! ## Lines of entries -/

/-- An entry with the line break that ends it. -/
def entryLines (entry : List Char) : List Char :=
  entry ++ lineEnd entry

theorem entryLines_ne_nil (entry : List Char) : entryLines entry ≠ [] := by
  cases entry with
  | nil => simp [entryLines, lineEnd]
  | cons first rest => simp [entryLines]

/-- Whether a line break is missing depends on what comes last. -/
theorem lineEnd_append
    (before : List Char)
    {last : List Char}
    (nonempty : last ≠ []) :
    lineEnd (before ++ last) = lineEnd last := by
  have final := List.getLast?_eq_some_getLast nonempty
  rw [lineEnd, lineEnd, List.getLast?_append, final]
  rfl

theorem joinEntries_ne_nil
    {entries : List (List Char)}
    (present : entries ≠ [])
    (filled : ∀ entry ∈ entries, entry ≠ []) :
    joinEntries 0 entries ≠ [] := by
  match entries with
  | [entry] => exact filled entry List.mem_cons_self
  | entry :: next :: rest =>
      have first := filled entry List.mem_cons_self
      simp [joinEntries, first]

/-- Entries at the left margin are written with their line breaks one after the other. -/
theorem joinEntries_zero
    {entries : List (List Char)}
    (present : entries ≠ [])
    (filled : ∀ entry ∈ entries, entry ≠ []) :
    entryLines (joinEntries 0 entries) = entries.flatMap entryLines := by
  induction entries with
  | nil => exact absurd rfl present
  | cons entry rest ih =>
      cases rest with
      | nil => simp [joinEntries]
      | cons next rest =>
          have filledRest : ∀ entry ∈ next :: rest, entry ≠ [] := fun other isLater =>
            filled other (List.mem_cons_of_mem _ isLater)
          have later := ih (List.cons_ne_nil next rest) filledRest
          have nonempty := joinEntries_ne_nil (List.cons_ne_nil next rest) filledRest
          rw [List.flatMap_cons, ← later, joinEntries, entryLines, entryLines, entryLines,
            lineEnd_append _ nonempty]
          · simp [indentation]
          · exact List.cons_ne_nil next rest

/-! ## Members at the root -/

/-- The lines of a member at the left margin. -/
def memberLines (member : String × Document) : List Char :=
  (renderMembers 0 [member]).flatMap entryLines

theorem renderMembers_cons (member : String × Document) (members : Members) :
    renderMembers 0 (member :: members) = renderMembers 0 [member] ++ renderMembers 0 members := by
  simp [renderMembers]

theorem renderMembers_filled
    {members : Members}
    {entry : List Char}
    (isEntry : entry ∈ renderMembers 0 members) :
    entry ≠ [] := by
  induction members with
  | nil => simp [renderMembers] at isEntry
  | cons member members ih =>
      rw [renderMembers] at isEntry
      cases List.mem_cons.1 isEntry with
      | inl here =>
          rw [here]
          split <;> simp
      | inr later => exact ih later

theorem flatMap_renderMembers (members : Members) :
    (renderMembers 0 members).flatMap entryLines = members.flatMap memberLines := by
  induction members with
  | nil => simp [renderMembers]
  | cons member members ih =>
      rw [renderMembers_cons, List.flatMap_append, ih, List.flatMap_cons, memberLines]

/-- A mapping with members is written as the lines of its members. -/
theorem toList_write_mapping
    {members : Members}
    (nonempty : members ≠ []) :
    (write (.mapping members)).toList = members.flatMap memberLines := by
  have entries : renderMembers 0 members ≠ [] := by
    cases members with
    | nil => exact absurd rfl nonempty
    | cons member members => simp [renderMembers]
  have joined := joinEntries_zero entries fun entry isEntry => renderMembers_filled isEntry
  rw [flatMap_renderMembers, entryLines] at joined
  simp only [write, render, renderCollection, Place.mappingColumn, Place.beforeEntries,
    List.isEmpty_iff, entries, if_false, List.nil_append, String.toList_ofList, joined]

theorem memberLines_ne_nil (member : String × Document) : memberLines member ≠ [] := by
  simp [memberLines, renderMembers, entryLines_ne_nil]

/-- Members whose lines differ are told apart among any others. -/
theorem write_ne_of_memberLines_ne
    {before after : Members}
    {member member' : String × Document}
    (differ : memberLines member ≠ memberLines member') :
    write (.mapping (before ++ member :: after)) ≠
      write (.mapping (before ++ member' :: after)) := by
  intro same
  have sameLines := congrArg String.toList same
  rw [toList_write_mapping (by simp), toList_write_mapping (by simp)] at sameLines
  simp only [List.flatMap_append, List.flatMap_cons] at sameLines
  exact differ (List.append_cancel_right (List.append_cancel_left sameLines))

/-- A further member shows, unless it is the only one. -/
theorem write_ne_of_member
    {before after : Members}
    {member : String × Document}
    (others : before ++ after ≠ []) :
    write (.mapping (before ++ after)) ≠ write (.mapping (before ++ member :: after)) := by
  intro same
  have sameLines := congrArg String.toList same
  rw [toList_write_mapping others, toList_write_mapping (by simp)] at sameLines
  simp only [List.flatMap_append, List.flatMap_cons] at sameLines
  have rest := List.append_cancel_left sameLines
  exact memberLines_ne_nil member (List.self_eq_append_left.1 rest)

end Yaml
end BundleTrust

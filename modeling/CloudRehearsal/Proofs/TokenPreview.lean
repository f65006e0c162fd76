import CloudRehearsal.AuthTokens

/-!
What may be printed of an access token. A token of at most twelve characters is shown as it is, and of
a longer one the first twelve characters and three dots (`AuthTokens.accessTokenPreview_abbreviates`).

Whether a token is cut is decided by counting bytes, and where it is cut by counting characters. The
two agree whatever the characters are (`byteSize_take_lt_iff`), so everything here is said in
characters.
-/
namespace CloudRehearsal.AuthTokens

variable {t u : String}

theorem exists_front_preview (t : String) :
    ∃ front, front <+: t.toList ∧
      ((preview t).toList = front ∨ (preview t).toList = front ++ ['.', '.', '.']) := by
  by_cases h : t.toList.length ≤ previewLength
  · exact ⟨t.toList, List.prefix_refl _, .inl (by rw [preview_of_short h])⟩
  · refine ⟨t.toList.take previewLength, List.take_prefix _ _, .inr ?_⟩
    rw [preview_of_long (by omega), String.toList_append, String.toList_ofList]
    rfl

theorem length_preview_of_long (h : previewLength < t.toList.length) :
    (preview t).toList.length = previewLength + 3 := by
  have hfront : (t.toList.take previewLength).length = previewLength :=
    List.length_take_of_le (by omega)
  rw [preview_of_long h, String.toList_append, String.toList_ofList, List.length_append, hfront]
  rfl

theorem length_preview_le (t : String) : (preview t).toList.length ≤ previewLength + 3 := by
  by_cases h : t.toList.length ≤ previewLength
  · rw [preview_of_short h]
    omega
  · exact Nat.le_of_eq (length_preview_of_long (by omega))

/-- Of longer tokens, those that start alike are shown alike, and no others. -/
theorem preview_eq_preview_iff (ht : previewLength < t.toList.length)
    (hu : previewLength < u.toList.length) :
    preview t = preview u ↔ t.toList.take previewLength = u.toList.take previewLength := by
  rw [preview_of_long ht, preview_of_long hu, String.append_left_inj, String.ofList_inj]

/-- A preview is its own preview: cut once more, it loses its dots and gets them back. -/
theorem preview_preview (t : String) : preview (preview t) = preview t := by
  by_cases h : t.toList.length ≤ previewLength
  · rw [preview_of_short h, preview_of_short h]
  · have hlong : previewLength < t.toList.length := by omega
    have hcut : previewLength < (preview t).toList.length := by
      rw [length_preview_of_long hlong]
      omega
    rw [preview_eq_preview_iff hcut hlong, preview_of_long hlong, String.toList_append,
      String.toList_ofList, List.take_append_of_le_length (by rw [List.length_take]; omega),
      List.take_take, Nat.min_self]

/-- **The preview abbreviates.** A token of at most twelve characters is shown whole, a longer one by
its first twelve characters and three dots. So at most fifteen characters are shown; those in front of
the dots are characters of the token, none of them in part; two longer tokens look alike exactly when
their first twelve characters agree; and a preview in the place of the token is shown as it is. -/
theorem accessTokenPreview_abbreviates (t : AuthTokens) :
    (t.accessToken.toList.length ≤ 12 → t.accessTokenPreview = t.accessToken) ∧
    (12 < t.accessToken.toList.length →
      t.accessTokenPreview = String.ofList (t.accessToken.toList.take 12) ++ "...") ∧
    t.accessTokenPreview.toList.length ≤ 15 ∧
    (∃ front, front <+: t.accessToken.toList ∧
      (t.accessTokenPreview.toList = front ∨
        t.accessTokenPreview.toList = front ++ ['.', '.', '.'])) ∧
    (∀ u : AuthTokens, 12 < t.accessToken.toList.length → 12 < u.accessToken.toList.length →
      (t.accessTokenPreview = u.accessTokenPreview ↔
        t.accessToken.toList.take 12 = u.accessToken.toList.take 12)) ∧
    ∀ u : AuthTokens, u.accessToken = t.accessTokenPreview →
      u.accessTokenPreview = t.accessTokenPreview := by
  refine ⟨preview_of_short, preview_of_long, length_preview_le _, exists_front_preview _, ?_, ?_⟩
  · intro u ht hu
    exact preview_eq_preview_iff ht hu
  · intro u hu
    rw [accessTokenPreview, hu]
    exact preview_preview _

end CloudRehearsal.AuthTokens

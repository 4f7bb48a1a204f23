import Tenancy.Proofs.Outcome
import Tenancy.Url.Reader

/-!
# Passwords in addresses

The password of an address stands between the first colon behind the slashes and the next at sign.
Reading decodes what stands there and takes no part of the address from it, so a text with another
password reads as the same address with another password. Written with stars in the place of the
password, the two are the same text.
-/
namespace Tenancy.Url

/-- The address with another password, or with none. -/
def withPassword (url : Url) (password : Option Text) : Url := { url with password }

/-- The two addresses have passwords, and only these differ. -/
structure SameButPassword (one other : Url) : Prop where
  given : one.password.isSome
  givenOther : other.password.isSome
  rest : one.withPassword none = other.withPassword none

theorem SameButPassword.eq_withPassword {one other : Url} (same : SameButPassword one other) :
    other = one.withPassword other.password :=
  (congrArg (·.withPassword other.password) same.rest).symm

/-! ## Writing -/

/-- Stars stand for a password, whatever it is. -/
theorem render_hidden {one other : Url} (same : SameButPassword one other) :
    one.render true = other.render true := by
  obtain ⟨password, given⟩ := Option.isSome_iff_exists.mp same.given
  obtain ⟨another, givenOther⟩ := Option.isSome_iff_exists.mp same.givenOther
  have users : one.renderUser true = other.renderUser true := by
    rw [same.eq_withPassword, withPassword, renderUser, renderUser]
    simp only [given, givenOther, renderPassword, if_true]
  rw [render, users, same.eq_withPassword]
  rfl

/-- What is written of an address begins with its driver. -/
theorem render_ne_nil {hidden : Bool} (url : Url) (named : url.driver ≠ []) :
    url.render hidden ≠ .ok [] := by
  intro writes
  obtain ⟨_, -, writes⟩ := (bind_ok_iff _ _ _).mp writes
  obtain ⟨_, -, writes⟩ := (bind_ok_iff _ _ _).mp writes
  obtain ⟨_, -, writes⟩ := (bind_ok_iff _ _ _).mp writes
  have empty := Except.ok.inj writes
  simp only [List.append_eq_nil_iff] at empty
  exact named empty.1.1.1.1.1

/-! ## Reading -/

theorem after?_append (start behind : Text) :
    Text.after? start (start ++ behind) = some behind := by
  induction start with
  | nil => cases behind <;> rfl
  | cons c start ih => rw [List.cons_append, Text.after?, if_pos rfl, ih]

theorem cut?_append (separator : CodePoint) (before behind : Text) (absent : separator ∉ before) :
    Text.cut? separator (before ++ separator :: behind) = some (before, behind) := by
  induction before with
  | nil => rw [List.nil_append, Text.cut?, if_pos rfl]
  | cons c before ih =>
    rw [List.mem_cons, not_or] at absent
    rw [List.cons_append, Text.cut?, if_neg (Ne.symm absent.1), ih absent.2]
    rfl

theorem cutBefore_append (stop : CodePoint → Bool) (before behind : Text) (mark : CodePoint)
    (passes : ∀ c ∈ before, stop c = false) (stops : stop mark = true) :
    Text.cutBefore stop (before ++ mark :: behind) = (before, mark :: behind) := by
  have free : ∀ c ∈ before, (!stop c) = true := fun c member => by rw [passes c member]; rfl
  rw [Text.cutBefore, List.takeWhile_append_of_pos free, List.dropWhile_append_of_pos free,
    List.takeWhile_cons, List.dropWhile_cons, stops]
  simp only [Bool.not_true, Bool.false_eq_true, if_false, List.append_nil]

/-- The user and the password of an address as it writes them, and the rest of it. -/
def behindSlashes (user password rest : Text) : Text := user ++ ":" ++ password ++ "@" ++ rest

theorem takeDriver_append (driver behind : Text) (named : driver ≠ [])
    (driving : ∀ c ∈ driver, isDriver c = true) :
    takeDriver (driver ++ "://" ++ behind) = .ok (driver, behind) := by
  have cut : Text.cutBefore (fun c => !isDriver c) (driver ++ "://" ++ behind) =
      (driver, "://" ++ behind) := by
    rw [List.append_assoc]
    exact cutBefore_append _ driver _ (CodePoint.ofChar ':')
      (fun c member => by rw [driving c member]; rfl) (by decide)
  rw [takeDriver, cut]
  cases driver with
  | nil => exact absurd rfl named
  | cons c driver => simp only [after?_append]

theorem takeUser_append (user password rest : Text)
    (plain : ∀ c ∈ user, CodePoint.isOneOf ":/" c = false)
    (closed : CodePoint.ofChar '@' ∉ password) :
    takeUser (behindSlashes user password rest) = (some user, some password, rest) := by
  have cut : Text.cutBefore (CodePoint.isOneOf ":/") (behindSlashes user password rest) =
      (user, ":" ++ (password ++ "@" ++ rest)) := by
    rw [behindSlashes, List.append_assoc, List.append_assoc, List.append_assoc]
    rw [← List.append_assoc password]
    exact cutBefore_append _ user _ (CodePoint.ofChar ':') plain (by decide)
  have body : Text.cut? (CodePoint.ofChar '@') (password ++ "@" ++ rest) =
      some (password, rest) := by
    rw [List.append_assoc]
    exact cut?_append _ password rest closed
  simp only [takeUser, cut, after?_append, bind, Option.bind, body]

/-- A text with another password reads as the address with another password, or not at all for the
same reason. -/
theorem read_password (driver user password another rest : Text) (named : driver ≠ [])
    (driving : ∀ c ∈ driver, isDriver c = true)
    (plain : ∀ c ∈ user, CodePoint.isOneOf ":/" c = false)
    (closed : CodePoint.ofChar '@' ∉ password) (closed' : CodePoint.ofChar '@' ∉ another) :
    read (driver ++ "://" ++ behindSlashes user another rest) =
      (read (driver ++ "://" ++ behindSlashes user password rest)).map
        (·.withPassword (some (Percent.decode another))) := by
  have users := takeUser_append user password rest plain closed
  have users' := takeUser_append user another rest plain closed'
  simp only [read, takeDriver_append driver _ named driving, bind, Except.bind, users, users']
  cases readPort (takeBehind ":" (CodePoint.isOneOf "/?") (takeHost rest).2).1 <;> rfl

/-- A written part of an address holds what may stand as it is, and percent signs. -/
theorem mem_encode (safe : CodePoint → Bool) (t : Text) (c : CodePoint)
    (member : c ∈ Percent.encode safe t) :
    (Percent.isUnreserved c || safe c || c == CodePoint.ofChar '%') = true := by
  have digits (n : Nat) (small : n < 16) :
      Percent.isUnreserved (Percent.upperDigit n) = true := by
    revert n
    decide
  obtain ⟨point, -, inside⟩ := List.mem_flatMap.mp member
  split at inside
  next stays =>
    rw [List.mem_singleton.mp inside, stays]
    rfl
  next =>
    obtain ⟨octet, -, inside⟩ := List.mem_flatMap.mp inside
    have bound := octet.toNat_lt
    simp only [Percent.encodeOctet, List.mem_cons, List.not_mem_nil, or_false] at inside
    rcases inside with rfl | rfl | rfl
    · rw [beq_self_eq_true, Bool.or_true]
    · rw [digits _ (by omega), Bool.true_or, Bool.true_or]
    · rw [digits _ (by omega), Bool.true_or, Bool.true_or]

/-! ## Reading what is written -/

private theorem write_ok (encoding : Text → Text) (t written : Text)
    (writes : Percent.write encoding t = .ok written) : written = encoding t := by
  rw [Percent.write] at writes
  split at writes
  next => cases writes
  next => exact (Except.ok.inj writes).symm

-- What stands behind the password of an address does not depend on it
private theorem render_ok (url : Url) (user password address : Text)
    (someone : url.user = some user)
    (writes : (url.withPassword (some password)).render false = .ok address) :
    ∃ database options, url.renderDatabase = .ok database ∧ url.renderOptions = .ok options ∧
      address = url.driver ++ "://" ++ behindSlashes (Percent.encode isPlain user)
        (Percent.encode isPlain password) (url.renderHost ++ database ++ options) := by
  obtain ⟨named, writesUser, writes⟩ := (bind_ok_iff _ _ _).mp writes
  obtain ⟨database, writesDatabase, writes⟩ := (bind_ok_iff _ _ _).mp writes
  obtain ⟨options, writesOptions, writes⟩ := (bind_ok_iff _ _ _).mp writes
  refine ⟨database, options, writesDatabase, writesOptions, ?_⟩
  simp only [renderUser, withPassword, someone, renderPassword, Bool.false_eq_true, if_false]
    at writesUser
  obtain ⟨first, writesFirst, writesUser⟩ := (bind_ok_iff _ _ _).mp writesUser
  obtain ⟨second, writesSecond, writesUser⟩ := (bind_ok_iff _ _ _).mp writesUser
  obtain ⟨secret, writesSecret, rfl⟩ := (map_ok_iff _ _ _).mp writesSecond
  rw [← Except.ok.inj writes, ← Except.ok.inj writesUser, write_ok _ _ _ writesFirst,
    write_ok _ _ _ writesSecret]
  simp only [behindSlashes, withPassword, List.append_assoc]
  rfl

/-- An address with a user is written with one password and with another. Both texts read as the
same address, save for the password, or neither reads. -/
theorem read_render_password (url : Url) (user password another address address' : Text)
    (someone : url.user = some user) (named : url.driver ≠ [])
    (driving : ∀ c ∈ url.driver, isDriver c = true)
    (writes : (url.withPassword (some password)).render false = .ok address)
    (writes' : (url.withPassword (some another)).render false = .ok address') :
    read address' = (read address).map
      (·.withPassword (some (Percent.decode (Percent.encode isPlain another)))) := by
  obtain ⟨database, options, found, given, rfl⟩ :=
    render_ok url user password address someone writes
  obtain ⟨_, _, found', given', rfl⟩ := render_ok url user another address' someone writes'
  obtain rfl := Except.ok.inj (found.symm.trans found')
  obtain rfl := Except.ok.inj (given.symm.trans given')
  have plain : ∀ c ∈ Percent.encode isPlain user, CodePoint.isOneOf ":/" c = false := by
    intro c member
    rw [Bool.eq_false_iff]
    intro mark
    have either : c = CodePoint.ofChar ':' ∨ c = CodePoint.ofChar '/' := by
      simpa [CodePoint.isOneOf, Text.ofString] using mark
    rcases either with rfl | rfl <;> exact absurd (mem_encode _ _ _ member) (by decide)
  have closed (password : Text) : CodePoint.ofChar '@' ∉ Percent.encode isPlain password := by
    intro member
    exact absurd (mem_encode _ _ _ member) (by decide)
  exact read_password url.driver _ _ _ _ named driving plain (closed password) (closed another)

end Tenancy.Url

/-
  VipChannel.Domain.Messages

  What the bot says to a member (domain/messages.py).  A template is a function of its
  placeholders.
-/
import VipChannel.Errors

namespace VipChannel.Messages

open Lib

def WELCOME (name referralLink : String) : String :=
  "سلام " ++ name ++ " 👋\n\n" ++
  "برای دسترسی به کانال VIP، از طریق لینک زیر در صرافی ثبت‌نام کنید " ++
  "و سپس UID حساب خود را همین‌جا بفرستید:\n\n" ++
  referralLink ++ "\n\n" ++
  "UID یک عدد ۹ رقمی است."

def CHOOSE_MARKET : String := "کدام بازار را می‌خواهید؟"

def ASK_FOR_UID : String := "لطفاً UID حساب صرافی خود را بفرستید (یک عدد ۹ رقمی)."

def INVALID_UID : String :=
  "این UID معتبر نیست. UID یک عدد ۹ رقمی است — لطفاً دوباره بررسی کنید و بفرستید."

def UID_CLAIMED : String :=
  "این UID قبلاً برای کاربر دیگری ثبت شده است.\n" ++
  "اگر فکر می‌کنید اشتباهی رخ داده، با پشتیبانی تماس بگیرید."

def NOT_REGISTERED (referralLink : String) : String :=
  "حساب شما زیرمجموعه رفرال ما نیست.\n\n" ++
  "برای واجد شرایط شدن باید از طریق لینک زیر ثبت‌نام کنید:\n" ++ referralLink ++ "\n\n" ++
  "اگر تازه ثبت‌نام کرده‌اید، چند دقیقه صبر کنید و دوباره امتحان کنید."

def INSUFFICIENT_BALANCE (minimum balance shortfall : String) : String :=
  "حساب شما تأیید شد، اما موجودی واریزی کافی نیست.\n\n" ++
  "حداقل لازم: " ++ minimum ++ " دلار\n" ++
  "موجودی فعلی شما: " ++ balance ++ " دلار\n" ++
  "کسری: " ++ shortfall ++ " دلار\n\n" ++
  "پس از واریز، دوباره UID خود را بفرستید."

def PROVIDER_UNAVAILABLE : String :=
  "در حال حاضر امکان بررسی حساب شما وجود ندارد.\n" ++
  "این مشکل از سمت ماست، نه شما — لطفاً چند دقیقه دیگر دوباره تلاش کنید."

def NOT_CONFIGURED : String :=
  "این بخش هنوز راه‌اندازی نشده است. لطفاً با پشتیبانی تماس بگیرید."

def INVITED (inviteLink : String) : String :=
  "تبریک 🎉 دسترسی شما تأیید شد.\n\n" ++
  "با لینک زیر به کانال VIP بپیوندید:\n" ++ inviteLink ++ "\n\n" ++
  "این لینک یک‌بارمصرف است و فقط برای شما کار می‌کند."

def ALREADY_MEMBER (inviteLink : String) : String :=
  "شما همچنان عضو فعال کانال VIP هستید.\n\n" ++
  "اگر به لینک نیاز دارید:\n" ++ inviteLink

def COMPLIANCE_WARNING (warningNumber maxWarnings : Int) (reasonText : String) : String :=
  "⚠️ هشدار " ++ toString warningNumber ++ " از " ++ toString maxWarnings ++ "\n\n" ++
  "شرایط عضویت شما در کانال VIP دیگر برقرار نیست.\n" ++
  reasonText ++ "\n\n" ++
  "در صورت عدم رفع، دسترسی شما لغو خواهد شد."

def MEMBERSHIP_REVOKED (reasonText : String) : String :=
  "دسترسی شما به کانال VIP لغو شد.\n\n" ++
  reasonText ++ "\n\n" ++
  "پس از رفع شرایط، می‌توانید دوباره UID خود را بفرستید تا بررسی شود."

def MEMBERSHIP_RESTORED : String :=
  "✅ شرایط عضویت شما دوباره برقرار شد. هشدارهای قبلی پاک شدند."

/-- `REASON_TEXT.get(key, "")`. -/
def reasonText : String → String
  | "NOT_REGISTERED" => "حساب شما دیگر زیرمجموعه رفرال ما نیست."
  | "INSUFFICIENT_BALANCE" => "موجودی واریزی شما به زیر حد مجاز رسیده است."
  | "INSUFFICIENT_TRADING" => "در دوره اخیر معامله واجد شرایط ثبت نشده است."
  | _ => ""

/-- Two decimal places, rounded up. -/
def formatAmount (value : Decimal) : Except PyError String := do
  return (← trap (value.quantizeCeiling 2)).normalize.text

example : formatAmount (.finite false 123456 (-3)) = .ok "123.46" := by decide +kernel

/-! ## Which messages carry an invite -/

/-- The texts that hand out an invite link. -/
def Hands (text link : String) : Prop :=
  text = INVITED link ∨ text = ALREADY_MEMBER link

theorem front_append {a : String} {c : Char} (h : a.front? = some c) (b : String) :
    (a ++ b).front? = some c := by
  rw [String.front?_eq] at h ⊢
  rw [String.toList_append, List.head?_append, h]
  rfl

theorem INVITED_front (link : String) : (INVITED link).front? = some 'ت' := by
  have h : "تبریک 🎉 دسترسی شما تأیید شد.\n\n".front? = some 'ت' := by decide +kernel
  unfold INVITED
  exact front_append (front_append (front_append (front_append h _) _) _) _

theorem ALREADY_MEMBER_front (link : String) :
    (ALREADY_MEMBER link).front? = some 'ش' := by
  have h : "شما همچنان عضو فعال کانال VIP هستید.\n\n".front? = some 'ش' := by
    decide +kernel
  unfold ALREADY_MEMBER
  exact front_append (front_append h _) _

/-- No other template begins like these two. -/
theorem not_hands {text link : String} {c : Char} (h : text.front? = some c)
    (hc : c ≠ 'ت' ∧ c ≠ 'ش') : ¬ Hands text link := by
  rintro (rfl | rfl)
  · rw [INVITED_front] at h
    exact hc.1 (Option.some.inj h).symm
  · rw [ALREADY_MEMBER_front] at h
    exact hc.2 (Option.some.inj h).symm

/-- What is read off a text is the link that was put there. -/
theorem hands_INVITED {link link' : String} (h : Hands (INVITED link) link') : link' = link := by
  rcases h with h | h
  · unfold INVITED at h
    rw [String.append_left_inj, String.append_left_inj, String.append_right_inj] at h
    exact h.symm
  · have hfront := INVITED_front link
    rw [h, ALREADY_MEMBER_front] at hfront
    exact absurd (Option.some.inj hfront) (by decide)

theorem hands_ALREADY_MEMBER {link link' : String} (h : Hands (ALREADY_MEMBER link) link') :
    link' = link := by
  rcases h with h | h
  · have hfront := ALREADY_MEMBER_front link
    rw [h, INVITED_front] at hfront
    exact absurd (Option.some.inj hfront) (by decide)
  · unfold ALREADY_MEMBER at h
    rw [String.append_right_inj] at h
    exact h.symm

theorem WELCOME_not_hands (name referralLink link : String) :
    ¬ Hands (WELCOME name referralLink) link := by
  have h : "سلام ".front? = some 'س' := by decide +kernel
  refine not_hands (c := 'س') ?_ (by decide)
  unfold WELCOME
  exact front_append (front_append (front_append (front_append (front_append (front_append
    (front_append h _) _) _) _) _) _) _

theorem NOT_REGISTERED_front (referralLink : String) :
    (NOT_REGISTERED referralLink).front? = some 'ح' := by
  have h : "حساب شما زیرمجموعه رفرال ما نیست.\n\n".front? = some 'ح' := by decide +kernel
  unfold NOT_REGISTERED
  exact front_append (front_append (front_append (front_append h _) _) _) _

theorem NOT_REGISTERED_not_hands (referralLink link : String) :
    ¬ Hands (NOT_REGISTERED referralLink) link :=
  not_hands (NOT_REGISTERED_front referralLink) (by decide)

theorem INSUFFICIENT_BALANCE_front (minimum balance shortfall : String) :
    (INSUFFICIENT_BALANCE minimum balance shortfall).front? = some 'ح' := by
  have h : "حساب شما تأیید شد، اما موجودی واریزی کافی نیست.\n\n".front? = some 'ح' := by
    decide +kernel
  unfold INSUFFICIENT_BALANCE
  exact front_append (front_append (front_append (front_append (front_append (front_append
    (front_append (front_append (front_append (front_append h _) _) _) _) _) _) _) _) _) _

theorem INSUFFICIENT_BALANCE_not_hands (minimum balance shortfall link : String) :
    ¬ Hands (INSUFFICIENT_BALANCE minimum balance shortfall) link :=
  not_hands (INSUFFICIENT_BALANCE_front minimum balance shortfall) (by decide)

/-- The texts without placeholders. -/
theorem plain_not_hands (link : String) : ∀ text ∈ [CHOOSE_MARKET, ASK_FOR_UID, INVALID_UID,
    UID_CLAIMED, PROVIDER_UNAVAILABLE, NOT_CONFIGURED], ¬ Hands text link := by
  have hchoose : CHOOSE_MARKET.front? = some 'ک' := by decide +kernel
  have hask : ASK_FOR_UID.front? = some 'ل' := by decide +kernel
  have hinvalid : INVALID_UID.front? = some 'ا' := by decide +kernel
  have hclaimed : "این UID قبلاً برای کاربر دیگری ثبت شده است.\n".front? = some 'ا' := by
    decide +kernel
  have hunavailable : "در حال حاضر امکان بررسی حساب شما وجود ندارد.\n".front? =
      some 'د' := by decide +kernel
  have hnone : NOT_CONFIGURED.front? = some 'ا' := by decide +kernel
  simp only [List.forall_mem_cons, List.not_mem_nil, IsEmpty.forall_iff, implies_true, and_true]
  exact ⟨not_hands hchoose (by decide), not_hands hask (by decide),
    not_hands hinvalid (by decide), not_hands (front_append hclaimed _) (by decide),
    not_hands (front_append hunavailable _) (by decide), not_hands hnone (by decide)⟩

end VipChannel.Messages

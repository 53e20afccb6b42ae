import Conversa.Text.Packed

/-!
# Character classes and case

The character classes and full case mappings of Unicode 14.0: sorted tables of ranges searched by
bisection, and runs sharing an offset plus a few longer mappings.  Each number is written in base
32, most significant first (a last digit `A`–`f`, others `g`–`z`, `0`–`9`, `.`, `:`), a range as
its distance from the last and its length less one; the texts are packed again (`packedTables`).
-/

namespace Conversa.Text

/-- Whether `n` lies in one of the sorted, disjoint ranges `rs`, by bisection. -/
def inRanges (rs : Array (Nat × Nat)) (n : Nat) : Bool :=
  go 0 rs.size 24
where
  /-- Searches ranges `lo` to `hi - 1`; 24 halvings cover any table below 2^24 entries. -/
  go (lo hi : Nat) : Nat → Bool
    | 0 => false
    | fuel + 1 =>
      if lo ≥ hi then false
      else
        let mid := (lo + hi) / 2
        let (a, b) := rs.getD mid (0, 0)
        if n < a then go lo mid fuel
        else if n > b then go (mid + 1) hi fuel
        else true

/-- A run of characters mapped by one offset: the characters from `lo` to `hi` whose distance
from `lo` is a multiple of `step` map to themselves plus `delta`. -/
structure CaseRun where
  lo : Nat
  hi : Nat
  delta : Int
  step : Nat

/-- The single-character mapping of `n` by sorted runs, if a run covers it. -/
def runLookup (rs : Array CaseRun) (n : Nat) : Option Nat :=
  go 0 rs.size 24
where
  go (lo hi : Nat) : Nat → Option Nat
    | 0 => none
    | fuel + 1 =>
      if lo ≥ hi then none
      else
        let mid := (lo + hi) / 2
        let r := rs.getD mid ⟨0, 0, 0, 1⟩
        if n < r.lo then go lo mid fuel
        else if n > r.hi then go (mid + 1) hi fuel
        else if (n - r.lo) % r.step == 0 then some (Int.toNat (n + r.delta)) else none

/-- The value of a digit of a packed table, and whether it is the last digit of its number. -/
def packedDigit (c : Char) : Bool × Nat :=
  if 'A' ≤ c ∧ c ≤ 'Z' then (true, c.toNat - 65)
  else if 'a' ≤ c ∧ c ≤ 'f' then (true, c.toNat - 71)
  else if 'g' ≤ c ∧ c ≤ 'z' then (false, c.toNat - 103)
  else if '0' ≤ c ∧ c ≤ '9' then (false, c.toNat - 28)
  else (false, if c == '.' then 30 else 31)

def unpackNumbers (s : String) : List Nat :=
  (s.toList.foldl (fun (acc, cur) c =>
    match packedDigit c with
    | (true, v) => (acc.push (cur * 32 + v), 0)
    | (false, v) => (acc, cur * 32 + v)) ((#[] : Array Nat), 0)).1.toList

/-- Ranges from their distances and lengths, each counted from the end of the one before. -/
def rangesFrom : List Nat → Nat → List (Nat × Nat)
  | gap :: len :: rest, prev => (prev + gap, prev + gap + len) :: rangesFrom rest (prev + gap + len)
  | _, _ => []

def unpackRanges (s : String) : Array (Nat × Nat) := (rangesFrom (unpackNumbers s) 0).toArray

/-- Runs from their distances, lengths, doubled offsets and steps. -/
def runsFrom : List Nat → Nat → List CaseRun
  | gap :: len :: d :: step :: rest, prev =>
    let delta : Int := if d % 2 == 0 then (d / 2 : Nat) else -((d / 2 : Nat) : Int) - 1
    ⟨prev + gap, prev + gap + len, delta, step⟩ :: runsFrom rest (prev + gap + len)
  | _, _ => []

def unpackRuns (s : String) : Array CaseRun := (runsFrom (unpackNumbers s) 0).toArray

/-- The character tables below, each a text of digits as above, separated by `\x01`, packed
(`Text.unpack`). -/
def packedTables : String := "H;Y%M2 E9a>46ig%IhvU,~ma?@oO!xfV+*fujc.9gy ~Xbx&bHP;r0.&eR!tBy,S]N@ly&YAqpby1AG2O2.UMauUb,LS**CfERq;rnv[p8bRC$(xhkO]:0JmJqzzRd>br!&phat:wj^N=&2+@ N0D;k~+Mk^9X=e)@B|XuorI8M _&xA0EQb(~b!;[[FzjR w0St3UN?Ormw^ga,)jS7!IE3!$NKn%yUCB;M6.pX_ri$+7u5Y~cyixU8nFxXbvRJ61l833DkSvKYM>QIoK@[OA?%xD^iB1t(xKv$uEBW?3.sO=vdbL 2Qj,6>Qx6XV$gtcjCo+45?&yio xrwJVM@=q7j.211_J?zkZ[MIy]BSx|:BuxM!tl|ysZ71c7fARIc1SVP^GG)pN ;?mBRBeRZT&D7F[d@rm S*Pj[^ZSL7kl+4EgqWA1$CiQ>A1TXwj$dsIM_.y8Jkd;iJI =r*V(zY(UpnISbY|j4PAfI%%OB)2h7$ohFF0<=G0MB,HTWr~Ld~woJe>w6ymr8zppZ2@~o+NT@+f=.rNuBeEN,sp5z,|~mWPV1=Sh9L|gz8RZVKVNis:ms;~c:A5i;ES!M3Eo!6o 29~SEVa .V6Hh(^CAKs|r!g(%NBQe=SCdydXonB+HSyhiMlh&(HK!EAX@%16p_5, %mhGz|B6Xsz?b;_?!Qu2~N1Ya, V(RH.GhR)RaWDO>ND)yXZdG[QpCUu[@0IlU_4hTWCl*qJWhT>=OsUbYQISQ5OGWL[4Yi!r)|V~@oahucrw9jJ)Aio4)o[[> j&Rcu_gl<^C@e<GjXFsU%]sx(NwnBDEK<c,XQP.FG?H~%jENEo8,mgN^Wv^Wj@1FZy8mb?Xm.V.v=WxG 657qqTO>H<ED]5?&nMpIg*Q?lwvdDqEuNRKvW7cOsT9^yp%elkqO%| t]Qkeu&s9tV6w8I7k*_uZ0!HMa~3jY=Uz=NpkO%nExob3* |3TgrLep(Bo^HyO:JJYXrdR+%*xU>u)&~~Pg;U?WXD3X2EEVYspuSpaALe)N4wn~hdVap7H<unUXx<_opsK1BEpmjXLKVLy3NZ*pgYdVD2urrspe.?SuHffz=w~.658$>RX~.5A;]>aO&B~it7C5cWsya+l2p>1CkB330dUQgO^NW&<WzA(N_41rWqgTz$Tvc9SW<<&JP&fpgA:B;$VeMKFRUn=7]lIN|>Ut~mgflL,HW51YP4JC&:klAbeLc%(E8H[cj:uHL|e&Z_|L7~NLmn$=+GVa?ERnA4aFih6bbwioE&V|3sU%X8qF<!%K&RanT;0=h]@~1Fk7hj)9J>uPSkxZ55=YK|[0=*_Ii+@Ik:bL(^jJZ8y_keCMUoN^6 R(,xu4(frZG+.EM3n~o;lN01o*cW1Zd8fWVx$|DmP!Lh_5b)M2ViB,Np7f~8Q]kZQQfuX2Sg1yRpSa?fWpydF^TKcncGC8Ua4?T=qde,eSYMyM42dm0DI*sS0Ds)MQtr0_OS?a@1)U0*jh2]?,Wo$(2VG~F~9?8M3RJie=.gtFvub5J$TQF[yaZB;c|;NZAX=+;.WkBl%WqQn|um|&;BJ+53oCwbG,>&g!:r]9:v_V,i8+E?v>MwzeB2?gJ:d;mFBeG&8LXKlyQamjO0+LVRm.t!*MR%^1xb=,1=8a3udQ8;^,e_6M=U26I93| IVk2ms+6?*Y[+dX.65WY(4DWXi_ILBxJfgMW(%JCCuHX?0:rexF;IV8;Nyf?=nsX)xT%l0:M*MxTdAVgWZN<IDv8QmzN J9)h_&dYN4=6tJ!,;pxCF=?W189.AmTWL0XEZ2[eu)G(Vxk7>Ip 6~0r rj!Wwn9i&i<A8@CO,ZwDj~jn3rS^b[;B;B;A^E)@1LeG*YkC YFU js&kcK83K=3gj1]I%BMA+:CvXjTZ>wmoq$MM,nd?oZTbXuvbXk4fkS4+DX|FY%K3X^vZq<d!<T;OmzB$Hjoi|yn<[8kGg;bh%!yCX|Ik::oOiuGFXk?xYl6~9Nnwq+EM
@+mr? 3Z4>r|IGo7P1G@]6qjXo&CvY8__m9r?VIAX>JN8H.];kFSg]SiS5QPyPD=nzRyh>fbi%|TzdoVBN:+pNW5p?_82UzIFH]sw0s~q1_<GIyb1]=UkGK)m+V0gqf7Z4]4w^VI|yOEaas(8~~^$M]^|s,FfVXSZw+G5[FJdNjN>oy..~5p?LOnZI1vUnx4lA3>~nMuxk.v_<E,yZ).Lqz*aAjSJJ?jSsLX@6(+@^+Ysh:0xt$)v B&v0wrv:;r+bQBV^L[0H%3*+tA]&6PU=R@oM$SFpD)wmaT?O?yv](*30A.s>qoa7ZW2PGR9:+WNI*JJ0%5_H?0A3&4>f(h1EeWiJ.T!K?)>Msf$3QHf%u7QAU(^qCbDrrRT?!5 _U1lHF:0D;2$$6^A5iq%BUhuhE;7D2Y@GSdK9<<azfuFTk*Eu3>C~^,=2?;71Oc0:SPxoe sYB3X(X)@1pH_q%;@c]i2|mGUVS;!8 Rt@x(oXwB4Fp|saB]C~7&0a)P3~ll.K(1z6JDEiD2df~QxpS9Ey[j.J &=Lw^gV6bW>9aVHWbV5)4vE<mMIz:z!8.G.)sAF|ARW)eP[eRSrISc;oB@4>5jq+@UzC!7y^wJ5PA2KLRT9Y91CnJZ+rPP;YO>&37ODy>G*>Jdi<v5&n^XjW3?sgJ7.lab|UfWa_J8ddI%j&.+esNh2vr?h!.NQ%E>D9G ik=!6xl|B0%@7sg,f$v_oG1Y7T(lqhBi9+LXRI~S%r0yJAwo&gX@TWOf 8>j%MiLjAHj,7Vwo_WIgyT?9 5s[]Cd!OlI4qyVkHRsx)tFk]fvsR;J>V_7ui% Hn5g:)5>,~1eLj!Q0+H2D$zvtECggYpNtbgM=i5xlf=kfFlET|N!,:e9Szi|2|dtFW8UVqma^Smsg7n@XRir2Roh+u:k!F?^X@c<0_EQsYW~kHMZ@4M*>N.Yhf<e7uL(8C2fv^r>ofhOU*[KaaAteqtc(maCFDc2m|+Dc5WPf3J3&RtEHA~[SF@A=h_h6axYhwm7r9h)<zdM<kX+,2tkEYMs44kpO=6Z[Jm2sXr17x9aX^k%<Sy4MU!|MIDorxS50hLm.@iK16L.i+bm% 98%Sllt)%WH^xFg[&p>[6:&qW3OZmlF9S1kw.r)SauMZEnNGCB?mFS8Xu0,h&9X!dzS!)!$g|nW@?.FxZ7Zx2Pe_JU5?!^&?!(fqN7qCx0UmBCR8)Pi6.&YoDfC%;Ky<+n=NgQD>A*GwE^T4+cDh]PSvi> oiHl0^3DXb_Qsk@iQCNl@WqqficusDX!PaAZ83LjXMmi9&7Nwmi,?1DaI*&>(gVfPHKwH8nY$EHu!eyYZ&m[G0(RM!6f?q?jobZb0K0xpt%rp,JE<sS^joNg~:aQA@Coe(@DjE~%]FZa3!;>Af7mPm>=eFl0,X+@w?y9:s[s8cuK]35<H0WHk+ox[3W;DdiD ~UeC_+>bZniwKlQci>wO&R0N,Bhgyjr:is+hMunUht9U7> |Hwd4!fB Efk9jdffTnk,=a7x^~pH4t:Fgz)VmkNzyGcYtHvg%L+K1&|92I)z,qI_%9Sswjiz1&7Si<l9j.zcZnFDg26l4g>^Ik>K^T0pn!c]*w@VG)l4=$ve^.dY8?J9%t+_t%q[IR6EIvDAT&^r V,vnnYaHySP2Ol7EQN9_nVKA1M=?E$ro=EWR,(JGAfRdvf+e? rjQ[=WD3m)i|)S2gT?s:6.L8XM4wDGcMc2:b?u!E5!Gh<jn3k? t;;^4<|XK8hzjx|+q[MzecyfM=@UJ?^C&:_:!uAzqoEoGfMV[xGHNrkz@x|lDhCUk;k3VCsT8M^:hh(0=4mb=^0w;6,oSTI+Yxcmji<7D~wj;>t^!zP_:g31Slr_DdNk)@v7CAu<]y5;I vh(3k1)gD<.>%@ML.!7gfL^w0thFwsRj,9~i 3lMp0RWYQ&X(=4QB@_tWucMI MOp]P[IGbO5QD]wmB:yZGj@%6hGp.7w,RCj_qQxRmrvDJQ,p
5VMSrNei0OjvQ[f@N&NP@[[d,R5JnAQnG~Wm+IPi[GJRV OfP]B)sTx9, iEQXb=?ZOs5Mxk%Py7btC5CM@@6F1!Z^+4d)9v rt:Q3LS4B_=7prQHfmJs[,BkQid!1qF*M][=Pcejlq.vxNgGsw~Cd.0xE!h>yK0M<UM&!_K]qHbh.B~z*<p WY%K0EfE2On34754GE4RHxkjGd%>oYPPD56;q)W1Y0+p@1h55 :RY1]_V0xizo[eh=sirdUwbj6!mMbZjg2&Up$h4YK7_++E ^)9sZii& a=>T? v[tsi EbK6c_u%9;9Kn5,B.ps)~wiXiU1bBlh,:ZyNng3~(Jmcy4oOWhtJ.PmLu;=&4Tk40F.dR1lw5?Q[n2igF9Sy)og:|i|>uijV%CWK5w@Y](MhUGpMh*[w1(hBN*6|ZIvdi3IkGxJQjspM~CTvo*9$OJk4L$<%FyvIQ4%TR.1O9hzJSuhsbaq,1yb*?Ezt(MGG(SpL9QCmZ9tiOeBy)f(mb_py>I8!EoM*Nln,FjVz0)gln0^uD?F56m:$<%3W6:J6iO|dJEF3;qjuh29M47IbvL]kPH?(wiEG?TKkgGEqA_x&ntOh>2k8rO@Akt~EX9Ol!xa4Nwuh*J0a4zMUN$i~M=X9y,Tv6.aY!CZ)5&?B.CwN7 $TYsn*kaDc[:1K(Czpu<q:rJ]T.ME $sGPh)q%1XmlV|W$?l4ofq2u>RLv=E1_eKozMSZ@V3X2$N9T%BVUE@*r=rOGl<VosSog%+j6.Mw*!<XIQ.BsE8gydl(*(a,+gqOR6iCsDVQH]j4Tr(Hj=eq%OA|X3jk8p[xzpA_:AAnFRYr$Qfeb(FTLG)L[2|YNFU.,)v?Skx.UsESO)gq7U56xV!xw<Rn|xC;=YdQhDqq?I0nwIn)XV<9lJ%Oum 8d<w!@JA)~g.PBe4Uu[x0^EXr@dSOHKBIh05A*$~!4jY]&b2JGT7Z4)]mMK.=@N5m|a?R<,S+yRK O9J(eKD&sDU)w*nA2KqN+S*:$XG4q<=|vJ@9EccUECCXZ;>>P$n5ZgD=u$EP+L93z%DI>E%nqs$k$LnxY(<Lw]cb43(~E=tM]c&kWUpd*H]NSuEYL8.24vITp%~GxL%R2(f4rPlr2*u;:OpRrDNv>aho_@bO6E"

def tables : Array String := ((unpack 8995 packedTables).splitOn "\x01").toArray

def letterRanges : Array (Nat × Nat) := unpackRanges (tables.getD 0 "")

def decimalRanges : Array (Nat × Nat) := unpackRanges (tables.getD 1 "")

/-- The other numbers: numeric characters that are neither decimal digits nor letters, such as
superscripts, fractions and circled numbers. -/
def otherNumberRanges : Array (Nat × Nat) := unpackRanges (tables.getD 2 "")

def numericRanges : Array (Nat × Nat) := unpackRanges (tables.getD 3 "")

def upperRanges : Array (Nat × Nat) := unpackRanges (tables.getD 4 "")

def printableRanges : Array (Nat × Nat) := unpackRanges (tables.getD 5 "")

def casedRanges : Array (Nat × Nat) := unpackRanges (tables.getD 6 "")

/-- The characters case mapping looks through: marks, format characters, modifiers and word-internal punctuation. -/
def caseIgnorableRanges : Array (Nat × Nat) := unpackRanges (tables.getD 7 "")

def lowerRuns : Array CaseRun := unpackRuns (tables.getD 8 "")

def lowerLong : List (Nat × List Nat) := [
  (304, [105, 775])]

def upperRuns : Array CaseRun := unpackRuns (tables.getD 9 "")

/-- The characters whose upper-case form is longer than one character. -/
def upperLong : List (Nat × List Nat) := [
  (223, [83, 83]), (329, [700, 78]), (496, [74, 780]), (912, [921, 776, 769]),
  (944, [933, 776, 769]), (1415, [1333, 1362]), (7830, [72, 817]), (7831, [84, 776]),
  (7832, [87, 778]), (7833, [89, 778]), (7834, [65, 702]), (8016, [933, 787]),
  (8018, [933, 787, 768]), (8020, [933, 787, 769]), (8022, [933, 787, 834]), (8064, [7944, 921]),
  (8065, [7945, 921]), (8066, [7946, 921]), (8067, [7947, 921]), (8068, [7948, 921]),
  (8069, [7949, 921]), (8070, [7950, 921]), (8071, [7951, 921]), (8072, [7944, 921]),
  (8073, [7945, 921]), (8074, [7946, 921]), (8075, [7947, 921]), (8076, [7948, 921]),
  (8077, [7949, 921]), (8078, [7950, 921]), (8079, [7951, 921]), (8080, [7976, 921]),
  (8081, [7977, 921]), (8082, [7978, 921]), (8083, [7979, 921]), (8084, [7980, 921]),
  (8085, [7981, 921]), (8086, [7982, 921]), (8087, [7983, 921]), (8088, [7976, 921]),
  (8089, [7977, 921]), (8090, [7978, 921]), (8091, [7979, 921]), (8092, [7980, 921]),
  (8093, [7981, 921]), (8094, [7982, 921]), (8095, [7983, 921]), (8096, [8040, 921]),
  (8097, [8041, 921]), (8098, [8042, 921]), (8099, [8043, 921]), (8100, [8044, 921]),
  (8101, [8045, 921]), (8102, [8046, 921]), (8103, [8047, 921]), (8104, [8040, 921]),
  (8105, [8041, 921]), (8106, [8042, 921]), (8107, [8043, 921]), (8108, [8044, 921]),
  (8109, [8045, 921]), (8110, [8046, 921]), (8111, [8047, 921]), (8114, [8122, 921]),
  (8115, [913, 921]), (8116, [902, 921]), (8118, [913, 834]), (8119, [913, 834, 921]),
  (8124, [913, 921]), (8130, [8138, 921]), (8131, [919, 921]), (8132, [905, 921]),
  (8134, [919, 834]), (8135, [919, 834, 921]), (8140, [919, 921]), (8146, [921, 776, 768]),
  (8147, [921, 776, 769]), (8150, [921, 834]), (8151, [921, 776, 834]), (8162, [933, 776, 768]),
  (8163, [933, 776, 769]), (8164, [929, 787]), (8166, [933, 834]), (8167, [933, 776, 834]),
  (8178, [8186, 921]), (8179, [937, 921]), (8180, [911, 921]), (8182, [937, 834]),
  (8183, [937, 834, 921]), (8188, [937, 921]), (64256, [70, 70]), (64257, [70, 73]),
  (64258, [70, 76]), (64259, [70, 70, 73]), (64260, [70, 70, 76]), (64261, [83, 84]),
  (64262, [83, 84]), (64275, [1348, 1350]), (64276, [1348, 1333]), (64277, [1348, 1339]),
  (64278, [1358, 1350]), (64279, [1348, 1341])]

/-- A character mapped by runs and long forms; characters no run covers map to themselves. -/
def caseMap (runs : Array CaseRun) (long : List (Nat × List Nat)) (c : Char) : List Char :=
  match long.lookup c.toNat with
  | some ns => ns.map Char.ofNat
  | none =>
    match runLookup runs c.toNat with
    | some m => [Char.ofNat m]
    | none => [c]

def lowerChar (c : Char) : List Char :=
  if c.toNat < 128 then [c.toLower] else caseMap lowerRuns lowerLong c

def upperChar (c : Char) : List Char :=
  if c.toNat < 128 then [c.toUpper] else caseMap upperRuns upperLong c

def isLetter (c : Char) : Bool := if c.toNat < 128 then c.isAlpha else inRanges letterRanges c.toNat

def isDecimal (c : Char) : Bool := if c.toNat < 128 then c.isDigit else inRanges decimalRanges c.toNat

/-- The value of a decimal digit.  Decimal digits come in runs of ten from zero to nine, and
each range of the table is a whole number of runs. -/
def decimalValue (c : Char) : Option Nat :=
  let n := c.toNat
  if c.toNat < 128 then (if c.isDigit then some (n - '0'.toNat) else none)
  else (decimalRanges.toList.find? fun (lo, hi) => lo ≤ n && n ≤ hi).map fun (lo, _) => (n - lo) % 10

def isNumeric (c : Char) : Bool := if c.toNat < 128 then c.isDigit else inRanges numericRanges c.toNat

def isOtherNumber (c : Char) : Bool := inRanges otherNumberRanges c.toNat

def isAlnum (c : Char) : Bool := isLetter c || isNumeric c

def isUpperChar (c : Char) : Bool := if c.toNat < 128 then c.isUpper else inRanges upperRanges c.toNat

def isPrintable (c : Char) : Bool := inRanges printableRanges c.toNat

/-- Whether a capital sigma at the end of `before` (read backwards) and followed by `after`
ends a word: a cased character precedes it, and none follows it, looking through case-ignorable
characters. -/
def finalSigma (before after : List Char) : Bool :=
  let cased (c : Char) := inRanges casedRanges c.toNat
  let ignorable (c : Char) := inRanges caseIgnorableRanges c.toNat
  (match before.dropWhile ignorable with
    | c :: _ => cased c
    | [] => false) &&
  (match after.dropWhile ignorable with
    | c :: _ => !cased c
    | [] => true)

/-- Lower-cases characters with what precedes them, reversed, in `before`. -/
def lowerFrom (before : List Char) : List Char → List Char
  | [] => []
  | c :: rest =>
    let here := if c.toNat == 0x3A3 then (if finalSigma before rest then ['ς'] else ['σ']) else lowerChar c
    here ++ lowerFrom (c :: before) rest

/-- A text in lower case; a capital sigma that ends a word becomes a final sigma. -/
def lower (s : String) : String := String.ofList (lowerFrom [] s.toList)

def upper (s : String) : String := String.ofList (s.toList.flatMap upperChar)

end Conversa.Text

/-!
## ASCII punctuation

The ASCII punctuation characters, and the clean-ups built on them that datasets apply to
sentences and answers before comparing them.
-/

namespace Conversa.Text

/-- The ASCII punctuation characters: every printable ASCII character that is neither a letter,
a digit nor a space. -/
def asciiPunctuation : List Char := "!\"#$%&'()*+,-./:;<=>?@[\\]^_\x60\x7b|\x7d~".toList

def isAsciiPunctuation (c : Char) : Bool := asciiPunctuation.contains c

/-- A sentence without ASCII punctuation other than the backslash, in lower case. -/
def dropPunctuationLower (s : String) : String :=
  lower (String.ofList (s.toList.filter fun c => c == '\\' || !isAsciiPunctuation c))

/-- Whether a character separates words in a dataset: space, tab, carriage return, line feed or
the narrow no-break space. -/
def isWordBreak (c : Char) : Bool :=
  c == ' ' || c == '\t' || c == '\r' || c == '\n' || c.toNat == 0x202F

end Conversa.Text

/-!
## Quoted text

Messages show a text quoted as it would be typed: in single quotes, or double quotes when it has
a single quote and no double quote, with the backslash and the quote escaped, `\t`, `\n`, `\r`,
and hexadecimal escapes for other unprintable characters.  `jsonQuote` writes a JSON string
literal in ASCII, with `\u` escapes and surrogate pairs beyond the basic plane.
-/

namespace Conversa.Text

def hexDigits (n width : Nat) : String :=
  let ds := Nat.toDigits 16 n
  String.ofList (List.replicate (width - ds.length) '0' ++ ds)

/-- One character inside quotes `q`. -/
def quoteChar (q : Char) (c : Char) : String :=
  if c == q || c == '\\' then String.ofList ['\\', c]
  else if c == '\t' then "\\t"
  else if c == '\n' then "\\n"
  else if c == '\r' then "\\r"
  else
    let n := c.toNat
    if n < 0x20 || n == 0x7F then "\\x" ++ hexDigits n 2
    else if n < 0x7F then String.singleton c
    else if isPrintable c then String.singleton c
    else if n ≤ 0xFF then "\\x" ++ hexDigits n 2
    else if n ≤ 0xFFFF then "\\u" ++ hexDigits n 4
    else "\\U" ++ hexDigits n 8

def quote (s : String) : String :=
  let q := if s.contains '\'' && !s.contains '"' then '"' else '\''
  String.singleton q ++ String.join (s.toList.map (quoteChar q)) ++ String.singleton q

/-- One character inside an ASCII-only JSON string literal. -/
def jsonChar (c : Char) : String :=
  let n := c.toNat
  if c == '"' then "\\\""
  else if c == '\\' then "\\\\"
  else if c == '\n' then "\\n"
  else if c == '\r' then "\\r"
  else if c == '\t' then "\\t"
  else if n == 8 then "\\b"
  else if n == 12 then "\\f"
  else if 0x20 ≤ n && n < 0x7F then String.singleton c
  else if n < 0x10000 then "\\u" ++ hexDigits n 4
  else
    let m := n - 0x10000
    "\\u" ++ hexDigits (0xD800 + m / 0x400) 4 ++ "\\u" ++ hexDigits (0xDC00 + m % 0x400) 4

/-- A text as an ASCII-only JSON string literal. -/
def jsonQuote (s : String) : String := "\"" ++ String.join (s.toList.map jsonChar) ++ "\""

def keysView (names : List String) : String :=
  "dict_keys([" ++ ", ".intercalate (names.map quote) ++ "])"

end Conversa.Text

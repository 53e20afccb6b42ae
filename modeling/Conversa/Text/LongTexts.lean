import Conversa.Text.Packed

/-!
# The long texts of the toolkit

The listing of the toolkit's modules, the table of model classes and the configuration documents
of the training jobs, packed together (`Text.unpack`) and separated by `\x02`.
-/

namespace Conversa.Text

def packedTexts : String := ">mh;kytyhH]sM8g5TSFL2awX_Wmnx~_t)sA|J3|K~(jw=nH+TuEMuQ,=Sog((Y%TvwHhk>x2SNI:W&YTxo 7=&klXcRZ.URO)2cP6r,t_Yia0W5 Aq0|CV1l1Sjn$=$HQx wBATBkr,Rp9o1z&+H3I)VJ2hDNV.c3E[Pso)ZM?zlF!jb43.cYOB(Vn8x[R|vGo8.TFKm7uE>2atUJo1A<U|;I=BY+TeDZ Bd8gQXcZ!b0UE0oljcST=Jese=.@CilqG_;UCXR&^*ywjp%]e0bO*M)S_.T:GDbD84A,ewvLFMHA,><Cm;_;TUKKzq7^%c_ts@&zYiH]qAt_1xI=?TLW13Q&slCA<V|h$H=QT%.8~(8pe0ffwBWD5m$7H5^T|VYp<;;KS[f5[CsI5,5xWwo! 9!OY=Fk.|jnODHh~p8;ic4(1QYL k[13T@k9Jzekp<N.vg~10(;g<TU7C~T]gnS[EE@5=l[f!.!!ED7CnD<q~5;[W1f_DVtfoZ>SdYbC@SUXs>PdSD]$M)Cn:.*KQg.;Smj!v[0|(S%5:ealVqGjJ4NXgl_vDXnOIhSaWs0wUD5VyMPYklw5idn[dhV7n:ooI(iudHFeAuM40nYbximJ:dmX;TXs@?6Q)<@@VXt?NL[Y )0*9<QMF!Ls=Wke(3bP>c:(@Wn=yZBVrv$fq0AQ)]R0e4CG=KTu=5k=]=G(e_%pGmcL7l%5qauwLII)8>a.u|zejxx[pnkeTxJ]zd)D2]FwSKW?7~92jN?xy!5C1pA+2pB<shstSM|tXtMXAs~0LsFR f4f 4Tmz)?O%cwZfJ?mN+:re?|5^s]Wd.Obez,ksKG_C%26q&3.X3^D|?[V<@i.rN pd:nP7]D),mD<9^ab;lWo=nYG3P4oP=NW(:,yh2:lN[k=t^Uz!d;3~H_ 9ye>w.!Q5=qe5Y6KN>faa,<!k3!rrB8PYg3]f^?]^=5RRV,::.dmwKGXTp][=LM]5^h1,XZnr8. KZ3hy99K.[o[1eFGVUzq.Ghd!Kz$t9@?~pA>d;FDXhRkb9lE3p|QH|T=us|.>j9cIIjnAO*(sw=g+!7,E=%D*pu;%Ogv8E+7P,n4YFQ(8 1xXY&6uGqmcV,WEAnMM(m>:z3X>q$zty5kWCjDhi%kd1f~]p1$j<DJOZFvZUAu=!OS2AAg0 sEu8QnGG4d)LMuOsh2a=Jk6+vx%Oj^(rd4^M1]EHiQa~$l>!_I84f!rqkK&SzL=9dS3D<ZKU@_B%DFiY*@O_)[Xq+$l_:VTq|a7;Nc+<Dn9Ra(u&a;?yn2KF1jgC0H;?2>t]+mot~VsxUKQhljlp]A)]0l $h>V~Iz:ys:&5zFP8HYE|n[rey6AQqBYS+@eC0N|$H<DRbC$S@J$u:Qgu%(&W8OwKX4dcoVD$(+5mw|q4aaTGk@JAs639RtvrkYYpAhHqE5Mh!v6BYt*SlL0.:jk@](N67&pGB)^G<j$)RH5_i2|@d:f82~ZP$^_m(SDGa^ +H.Ymt_gELZ?i@, geausxtYyuu|qr7*<dZI)Z%+zI<F&yP :D_o+~x__AnX$9jQ;k[vx2R>a9Xta,5>c@Ajz^$Erzz=%6RY<Di@Qv$y~Y8Zxe+)W5q:9ni6V@v&YTrYUlf)j%|.G[NM<t!)4C|qF]it<evCGqM X$do;;Gcr43+5S*!2aSpbG.)dqF26XV78QS=QhF,Uxlzd$us~=_b|PmRykIu66@u~vr^lxEz@P;y@D8sZ?9kQ(knU+^5HPIlCZHOk$>,W*W1_X+r4_N5hl+2CyrJ2X&NLu;u4cUH+08>kycDbBpufWE5[GkMdtft]C03Y$r8<zA%&Yq2lxxgD07s pd&P@N&^>JH_jpEf+ych1)IQUnAGZh[fB2&9[0fMXD1OuJ<n?z9>QO% >P_6oXjtqQ2Um2N,it,?.r.la>&8arDfl%E[5J0^k?I$un)LA2JCIIcp5.smD1Zek>VhxnBgAj!f2afdTQ|g=Kt21~5gVy!xE)F21
1uQN;4XLO]0K2wS:eA<XE>J|mg4i1 FigEI.fW1t,N~u5POON|gLp7f0Ak2DylDF__zW|>V|b|PWab[r,B V~1<Mg2Q:gwtPo+@zZjX @:!bEFl cYM^tur;<@aHol~,H.3|vY?.E(jo*lU<8$)^e4l;AqgJrr~<xFL5do*XcfXQ$Gr2CAcWm)zugau16E_%LLzRXASthQ;BLX6~ew,i%*$zgT+>;tIs%U10a:&B^m*im[KX,VhM%2cA1SbX6KEkYsg!:;HPwWrG$,ok7jyJ:mq3,ap*wz3g=KNUDJX(uQ(Ijd]wFsmrSG*f3FN>g+senU. w.yZYalPUk!VD0+ZL4m[>w[Ubqp(c1[GvO_dw@Qa8,[[7o?rb):qM3AB2 kn;Oe4&hSZx|IBB!^,;EwM$onbe@YJO90?Z,>ndZ2MC[L?9|bVhY,AFNdD<hPYpp$T(_M5++8)L8Y<fm*$PCV+m9+@5(jKm0+o6<!J3jTyE[GjNg82xP2HY&jPG!HALb4Vi>t_e]c1LSEMV0479mMsLGJ91IC8i@ftmwKJUi[o7Fr9I5~fcqDPm8e;AlrT]$Rx$Tmz)|?$<>HCK;Ve&[Jkg&EMq,04~@3At+c[x.ne ;<IAKfP,7 7r*uK<6ut!Af<^78B.?+j1XyQPJzuh8d$g=fe5b9GaY6l2MbyxzVz!h1Yh4i.sq7]eCLMk8*g9 Pp;NXk4Lcz793* ;ReeV!NvA[Nd3l$84s|%+n5LETyY&ttIkyxGU$Y6pUUu@QeimPPFrLG;C?CvvLMLzm*cK!8U+ 702j2e@P;jz~~zJNQI*1D9QM.Zurf061@ZySqeZ?dMWn9tAK_hp1)f<G+!O:f^Sf4cFhs2l?b~pVdM>3!cWOKo8!amioIzW^:vKSaG^eGlhLZ%,ZV^<*19i7)cBrN1Uwu:KX~csJhvA&2%(@SS=x&xc]x jI!LEb~sni<W<JI1:WgaoUjF8$i:>&@VX%U KIw?cNyaCQSEm|r1[Ecd+@;2$rAaY8acHrZ~d8$<ed wj]+(=qh(C8MZOiUm)qd[Xr!:B5^R|Q,WLp,OE9[AA(REK&UR69m_&YGsGZx~B,KDexf:RPXaQ61FKxoc*lqb*c*(gvOC[6h52 RdWF:c.>3:vr553KAKvv%>C,2Vl)00Q2S:Q)DGi5jK8;:5jW2Ak4jL7y2 CoX7.28A!orbC5ugj%N&.B2BY>Y2a@Rts9B5:jI]6$?0)1ApKoNl|aO9ge1=p+HRS4Y+_2hU&jIfap;Kqg4gwkkRoH3?xv]m(jM>h0>1q(n(ZguMUNjOih@YB^a[<Ph7A8n]3![!]S*9oj3DdoTa$PEJ3VUH=U;Mn 78v$A7a@|_lnIyIE@,x7sg?_K2Y:.Ata|8A9xW2f!X0=A7[$WTQO$ex>:(1:t[JN=3W+Zyb1hkVVi1T 5*LM?=4I_XTkB A[oCs0+;]C.R1j$NqG9rdUa O<uPd(U>+AQ+>IWsbzv)K%sMWYlpc 5QnY:QmCl&Lr)7=*E$pv=JN:J_)sa2ge9q+mVf6)m&T^h%%fKN0w1*m(~9JeFOD,lXkf|D2IP=4K?YtCTU=ohr1L7Vc*DUmqn]D~8q)Gp[10g5t5iH<XSs]RcCa_koG470wizKf[b0f]zSbK=O_)ZUI:)M&zr6GAk7@jrkJ!)O9r(+R,b(G~9J4;z*FCN SJqGs9LSeB!M.Zy=+Pp[b2Al7()nh: 6Bo:]97MEx9yZKo^QpU*c* zG%LZNJ ;GSBh+RvG0LmK.chsD0U+_tcGm)0rc3y5t:oQxN~NhXhJi!).o24S|~h+Y|wN.=s4EUB.R(K+Y%FYC1Ndw=OceQ3[Y@XKrN82[I2XhYQov^FLTnSrR=qEYCssE%Q&5s33Hhkp~G693W)K;X0Z7eG!rrk6$Vj&4&4sWSmWbPP^m&DO>@Q]0G .z(g52iWr0[YqLHHM3h<d$W+Ttuh$fiH.tNR^?KFpi.96vDazEBHJd|vo1RctPo+Xdm6g!Zu:LSw
4lyT*(R*ZIH8M@X5;7kAbFNpX%xd^iRMwY$O47?ggeUs!mM7)Q8.tsRorE]dwsVb^!c23IP3$he)*=?<.8xke!s|>uN0|:z)mR;Rj1uOB$<&&aYvU78Dk~DTQ^>nB]cvbV$NQETanZ*_0dmcs_av<U2q4CL!12F_*x9U@Y|DHUsLKl^SAtAx,U8GzYW:)S!W*y.F+)m%YK2~)(ma&H[u^y]b$1Kclm0d0a7H;V3TTB8qV3nGx(x[3s(1^EN>E8EeH)Bi.Aj]r@~UY&t9d:(i[c>ULtnm?UmlON^9pnH^]h[gGcEHHDH1CM+Ntovs?Jk]Q*@a3SiJy89z%OAmri]<LlZ<U]2U>Sk^V5Jyk04Gu;qQ>y]vl1ZGi@Y Y8;AW&+$0LDEA*tKj?%<9QAN~4oiq9$P047n&g*1~7Bb5uSc%o. p((QdZr_sKl99Or7kl<?]F5g;1PrVB,T5=FOQZGuM3>yQwPYXdK,lMt@3)L+SsEClVt]KNqV40CdBaIZm_Q8~X?y*ouICG@kyaVeIy]p841xVC]X>t(bFc1yK=@Xx0oq2GkIam|5awycAi_1qg_9nS]zYRS|b6yzEE)VOcSA(KJuE42<Yyg@^O+XZ.JS8_D(YLZ*q7zQQ7jDgE]mCe!difAyYiarIYE^w5s) :$txVw<Rs7&@]~OC*^K_^e1[U]f(dg@rr$C;b=7!9oXyq(*<,k|,,4uS+(u4Jt^m@uI:!+Fgd<Pkn$)+~l:E^[na6Raq.ul34?|C~b3n&q8yniq+pn~yo5~uK@$t^2XNwL<|y+K]<YgR!C(e<]s7OFY(uD]v?=use.@$@(_coaVEgPpiu@f!XC:YSRmIU1x,&R(Dfevet[+9n@%B,!RV7p>1sBMKC+pmnue%]D5qi|C89q7|s7X|NMC8*Gp4Xvwj+od&PKP7eR5lIqVP43?j*I.jewK.&UMUoEOR1UsbEXM0K04lv&N|j&&%|t7p(lG+zVdKCUb,3ha,Rn&4QK6%UMU%19biT[7l_7*H@K_p12K_Rb)B;&s_F!d@:g1%Ljv0iqq1TV>K|< 65<GJ4+i4|7A6ahe^VCGG1BdU_fqHbA7U3;zosK_FP0+.=1*=;N6fW+Np!O= 5[K!>yacuNsP.cl_.AipN&8L6AtXm~xdzmaZ&A =eqLL<smC0.*Dg4_a!PrHtqHCF]gc>e|gP~v<x&pq*.]z~%MSJuS_oauTe;^%B,,%%m(j]X$M>o34[&0+de)Lx,mzz+W(yE&HZ?sP<)D1lJmDp]T:@8*(XNZ6>6<j%GGl]!YwhwNlmok~>woQ? AfK~ X:*%>+YI2Y!!+f3:8?TG<^eg2%GqmXA8XEiIIU9*AW16(cFkj1m6JQRwU%(jGgvuS,_8.ujAEX|kX23QM]Q_s6:[=a31G7=PWulKp<SB]Edyo_HNWbS~%A~uk0d+:>khXR|j.0cd62*X@Y*G,%,m)_wJb1]D6:?:dc.1WtyO)nfuRQbl%zE)VuCn[8(a:%v3x<(iU4txuMI<I]Zk^1Wfgi3(QVV2c&>~ODFhcg8AQzcMCvj5qUZZ>7HL0%wYjC|%,*;nej!,!Cs5Z9bZ5;w=WX?E?Hax|[ZT:zA^hh$xlr!IKMO.>xo,8]Um*z0Nv]~OQG<k(2NPCFJqy]o3O<LD8;Oyw]loYCNU29_Q9$E3]SjF8J<zN5N.7y0y~KpSq.c?J=rpjwRnJ6+HI8LC.Sxu^<J&mJxT[2Jsr);05ZbCU84wRMJ[_ET^A 7nops^23g78;R,W=R4oGT~OJcWoGnK;J>GUc@xmg)I)]g+D=TX+b:&dvv8@AE<0%AMO2:wif,!+Eh?S^sDn:IMcdx^.aUd<dA1fuB4=0P*=G.m7zQtMhOEE_rlV;Jz_Y>XQoR61fTVvE|L!$HmPw:2QJAGdsaojiI=G9HQ_HiW_<B~PyPd|_(oGF>LP_tpK6doe$z&DKMQj9G>eQOh5T%1a;774rZrAf?eg3!fv[BTf=nRevazQa::4k;+oBCFTkm
!BTdpw>Yr!2]~>G(Hclz<c%gZ26),5xCFQ4M!UzAEmrb=l46IJ(pWUEDu:|F;T=!u@<pkkEE~;@rUxpD6e&v+%pqjLiJ+C f7VQx4H)Z2H1rxX7$o;x!$akYdc@c_sW_=157_tm.92Lf0K3juv~fk!4V]+S9JBcM^^J[rJ|@_|&EXMvyhw*lEZ+f,Pg;mOUJkdcq;5K:K1+mqp|$!4>$@2;B. j2%zWPto~I+Ma9X)]]C.pgbB!tu0qagLN]CnK^sC~$|n;W^PYgz&bgq1L9>DcTg8gBT!RIj=J2=QPas7D^nzL.CQEsED%g[?1x5|7oo+YmguN1][sK5Nwn)OMuq fgN(>d_P=:?;mQtgU9fGUOKR)a$CiTb?2yc^mjvJ(_6(f9zhbnAZ78l>f!4u+h.Yn$K26j+_>*C50bSS[&7U.Jl)HACcGN]SG4Pf5*e0RT>5o3ER7C+WNJ@Y>Aefd.A]xGCy8:yK2<3*]_]UPN*vV5VAPO^Sbf=S3 !4~xlHCU?*rlZ=:.GMlLmES9MZ97w@ReOY6H@<@^KL6*PBnmP3GetRzp8l>4?BQiA__nJ?cS]]nT?l3 8X>*3b<&:BDuJMv$92ak:59Ubn:GGvoP9c7Y*E5W; arvY<,RlXE_d1v82t9v$J@rj:^(X!8o)9(rBdY5b.^t2OKb7f1j> Q3;tbwLfZo|fQ.za*Af=Qs4.?)T%kVR*K$Hv:<_wTafRw&M>9NeUA=Y<N[%&FF|359Ti^St<L@4!65h5q48j hVUgJ%j^[WF_jM1EEytV%K|=O5$6b^C~Ke4;Kb0+S.CE:d4Pz|29,?Oj0(v61eFd)XXOF1G66SD1.l6T[N3+@Z!t^*vx1hit 0U<mLcO.@qo&**0S+ 2mHddo^8oe~SQh~7W&m3?x|JZ;V@@|&YLp9lD+sW:_MYFiOk_&sVlY[$(r9SN,fwE8zll>jP,8xXG@L5.c]y&aEe;229eo^4@XpvsuKeTI<.teUv7:a%8A*nxZ;pMf%F?YTYDXJ1V_f9*kx^8+GmK:AC@KdueXpV[4_HU.1~s6*m*_!%:D^$wKg|XRca)L:s. ~N*_m069IqG%.ex<*^!;zj?JVy_;B<qJyL<UOUJ)8Lz@L!cON&h^RP&x.I[Iz7VMfstFtZ~ttc&c~s0q_(Hk,=z*ZubDuu65Ugm]vNb %r[g is@fv8d*zs@qxMf82|Lav!7!P,jZ%X$sl!J3;sD6GLMNv);$WR^,]gDrx&je*V(~Q$=PBE^eyF@@TrB(W W5FXh]$^T++UNeYPP?EtTd(SKC$kf~9U$K8j39( y0eBtw6py:XPcv])?zv,qi,x583t)da@EB~&lDUESg|Flb3=qmg r(CMZvd@Vox+o!H:voiof3~8uW*%ZIDHPgfAbP>9hH2%Uo9ZAjp&l8s&DfEUZl OPDMpmEbyEN7eKV;gBm9[UqfKX*^DhDGPF 9]dGj)m21y.mlUYm^&E~7&eLn,5JtMJt|Tjk) UE33::zAT2MMX2mxb!SX3D6T8H4Y_x*R%u@?7I@h3uh)?iLqJo~7u*s[,]bg$Bnw7ANn:s~tjDm=Uwq=EF@ts)HQB]m;**H0u|:mE%JMb)x6h;1gi648SaA:WwUMw8mTCcNv[cEboU9FC.@AosoSA:6sh. x*u9Z3K9YMB.sJ6pEBXnj%2.uLc$n_BSa!,N9qqD1Z1^I^pC)xVAbgYy?B^974Ut1kB5=Qv(U^%IU; m|rb2lWfa))jL,ZEHI@82l p]zjN$I?4g12y49Ux;s$)e|>|nlnY%]Mm[ykF 3%uczNZ*PTrOaY&yU_B[uA;qXz!vo6RvIr1.nl]6$4+V9vG5RZ2@4y5?+J=HRljUVesI[%G_6T383MFB)3UO=G= |G_zB9ZW?^v,~^*JW8z*yui.im4M0UaZf9%Do~~6wZFe8ATw9)9]EA67Tm)s>:qZ>fy)886gdKGH?uY7nx2W]|_ZPhS5Zu(J21+5FQ1)AR)WFmCOZDr!&O3
?NQcAeM R(;Q.~?I <XQf?BhF6E7EOlotHbojX,$MQ!I@[s@!s&Ww6oK2jLc=)kI<pQ6,<J9I(rLWa]zwVj8yaKsuP_^Re@%VV.BvN YS>65 i!XS~a=k9LXS!wzQmkpz~0Z8f1phKy<y3J6hX~ )>NwmPDV+Sg9>deSUT)v>$6ql8J%O9q(.daG[47q?Zj9wcLFywx%oxXAFn5N]Z=ArN>VM8G2X8_) o@ gASTyTm 1zacqEMLaSyO*Sq&YS53&ACw_9rZ.5cu0q8BYnIpKy%dTN5TB?!ndBCwRy!~.*K$($y_i:05:+jBBf:!44O0e;XLcp !x|[RX<5sSV5**RHzDj_QUu@Mto>w1okDf7e6+8FT)6hy:PDqXv=y;FD+dz[+86*)b7bVmeSq5TY(:g*^1l4n7+)Gw2R@~8^;k*WXDZixI*3C&f)P*Hmp0hvdd,O1s^q;qYC>r.N?:Gs&$)Q1,@3RIm(=^qsuMf4lK>^6*=(vO+^X>ZI=.Y?&e%IDQixGhmuI3Q]=n?tkA[J:UIpMOk cP7vngE5=>o &=y2n[g48mQ0N3&:TkAEgq:ao>iaL&p&9HOCtC7NJJ25Vf4Y&)L]<jLn?ul$g[dBrF,EXC!XjEXEeb@P4=JR,ly!eHS:QId)NkEAYP]]!g9(k)<+4MMGY|oaCJ$w?wkz2;$9Z$$!Ku8ay^L1aH~((f[lP&51Q p$C_WT*AI7(+EYJPvttf2:T%r920,0[uxAC7peCr8t7w_sX!fpT5tMDxtV$@ Zl|40Xtks8t36VR$U2sc0KF4s:TWGZN(Onx:NkVvqjJK5tec9<HbY^jMWoa2JC>VxKZA[itJ@t0J^>1z2_C72%rED];zwS)sr.FwEN4H28MRxMH9)Kf*)CF6ki!Fx6|Jy3q3xI,|wL:jd^zEu*VV.A?W&8*KtTw5hQi|O1a5q[<=:mH1tvSY!H^ u:>h*|*Uno_Rg,y5i(H]Z|byN~Omv(zah^e2t.Q~w<]Ofv3ZjL:tV ^(UF,yEWCPl=4~,WX<x8??f~nlXyT,YwTEv@dmuRuVNS=<?Y45FWG^g3kSzsS@Ok5 dAu5R_,VMIyze<t8$BJ+XHq:H~atgoB?,f22>Y691Qe(xsuQZp3)Dbkk SQAPJmI$XHZ&ZU8Sm3jS0kjH+3nZ9cZA87hIipC^vZoC[;neUzj75Cte[HSo!&xP*MGL6,4ahL)~,l*.WNa$b:J<ZxOb[D6XYXu(T<v|%37;vz(gr;(4x?VPQ?!txCs39|~:)@SGD2Ra!NCzzq!x<G*z,9$<,[UdoWQ;vx+f7u|&=U:0t2bx3:UPHKZGDD>5QV68>d)](*goc.~$79_~Iy~Uq(YveV7[ $.p=QK2:F8LX4]Phj7!pwD^CZ^wuS@..X_5q~nSvkKQk%_+mQQ_3S[efLAL5$]Np8?1CRm$HCQUzLwKbab_4p@Y<K9DRA$88NCk;c56|Q:VfMJPk^^IRkon&Zw+O>jNLb6m^&wp0>:Ko][VZ:?R&YHgEbU,6K>g8:bV:TJ22&D%MbJjSAsp181*$nN0@_hv&<1Dn234A1+K<MI|f75I,k2$v4NU,gIzscqItzHBH>VFhX0VlN7(Xs0PbPPye~f SwI5:C4%5k$,)HQzKqYZZ,WJz6j~U8xNyLB>B~VMIJs,ZG%(XvE[lN[M]6$G[u6V;bXC(ro9+Tv2~FTlEKkjnCBT^4mmi3ORL+EaWamoL^d,lhB_OevqV+H]!*%Hvrz!PJM$>COHh<xlG^dg_w.$U2JYlPPi&rc80rF6P>rKG$=FalgI<K_(X8_REl?@z.Lp+G J2dxw;[C>$y5@)ZDt+B=hr@]epzFJp1=xGNPhejGbMtmVZC=T4br)oZr=TpH,q;v@>*pp7_&Ey18T; ZlIic|=3T+r]_TVP3tsP  KQ^JPdD))tP=BlMOTN^?]NHsm9<:4qn[_[vB>+as.ep=Nk>F_6U67HGbM:gOis+Qf95UU,xAPBrK>nI;$NsK< 52>K]
!RyiuKP%cDSQfo|SPwW3?o%avuuHf@5;:(_Mj?J)GB%^+IXRcbJCR*Ce.dU.xurDIF^lF@Wan^yov4||in7J>]PGg$E,ZG:9d=6@m sUv .8ZYY,X AWD*q+sU7.TiVyb]n=E7RA;k2x]_0O.lI+8Jj8b[@n>m43m[vbG$*7y8tcEPa$.j|^4Khr$RjLP;1gxxFGx<:g+rYTEuvl8u0)xc1hew~87iFL_gXDsR_@2(Ulu2ck=no3l=M0,.Q:83h=~h8m&tyLxTNnJTB6*5q6+O4L_cjbXrn2hrfFprx6%,21I@FgkN+j7yQ^0p+1)qAQ U+X|xBN?=76i^Q>y>i[$x?O>(DnR,^1u@TlCybnkg0eIz66F0T:dx:07,4w9Ps+v0SXACS4)uhIsn:22*ezN@rY<^ek=WNJp0!2&RvRkO+w|%Fe&|DSrH&D0b6UxDGQCy6?;syR1n[s:w%i%j|dY7_a&D=6p~WlH$,I.8WJ?ABj)FudQF5v,;cg~M+,~^uQJFgf^?5=WXz pz:Pfc7TEy]S +yBIQJY&MkZ:!oSD@a0&~&<FK0T88@>eC~slJ4|9e )Rh:|O72hWZn<hZUrI%SjW_|np1;WCv49.*_l[[xR ajl4q(.[:iJD|rdDE!Ws]P&>&ba ]X:8%Cn>5X?2a;tiOFMq;K80zFB*8EYtMEjoHWJT4NGl5:v+DG70_ldp>RwsFFx3$;_qptku!6sAQ>0<(,F,iXMgDGsV@~:.[[YM!n==P&*rx,,TxM?fR<)&QnV(vN6D <lP*j,m:KL.<XbfBvQdL>f%)=Fxs&rM d2H_$cR?Lb*$PZS t8g)OrqnB@N8v_S$> t3(oG?^KlB  9&1>E,pN?RKyxIZledsl4^ci|]Po%]XB4UzzHk[AL4Q&56@+[^+rN[AK2)0)_=>92,ZwLwTAmgqR%7](a]o:,TY.AO)!|0x| %O^0WV|0%[lIbdRg5Xd^JPoQR;rHOo5X1_,.uq+qdia00kScCpPp!h]!Jc3uKqE_v@!m?,Zz8*kx*@+&KjWG>ro[;xb^F:NM[1JxhA[Br1MLs.k=GT<@OQ|K|G:z^G]iGF=Rn1Pyy|06o>WHOOsx|hLg!lKR)7__xWS1qrs>leD;KhBKjP8Y,DYvHW^&UR8|m]Vp2&sosd)X2oK$m>sw|w@vkyXjcfO*L2XNyy5a]ff261^y4Y0[+;cIiligA.=)Z[vbv+q~!8JM[,.:b+[Gx+L|%:T|:%%rXxX,he.=]q;*~5VN$&haDkO2w0~KY<pMrFMC6NdG%M%%zmV~z*PSue$v(!Ge^)z.&65|:c@n&]XCZT7d5.vqp:hGb.+iDIl0zRiK:F,TO&bc5A|as2ax7Gh.E?8*bLq**@5N;p8;.C*a:yixnGnkSH7)2Nwv@K:H1]$?4VVs47zX[2b.IawNO)K3?ePh9?6%JAE7b4N:26)*kWs3PkzoLoE^$BPxyNlrGji|r7t<Z!hnC8(=^<M$|?=.&[Xt=XY>GKm)<yhRPa[P@^*[|B6h%wfRwJ;;(qI&GDT@oZMg@4jd)l~vsMa?OjCA>rfXpYdkVNz8lK]B3xx(if4Z*XqBYuZ?y;0TOUHm;w1m>HJ^)~$H<.6@0I&(67Y$64<9ZY5+Q.?Yu[6XB:*j10?g.Y?]4WfQbuhiGPVADlt!R5oc0h;dqLXd$W0dQFy&>L5Fl|dsSpcZ_Ta YUc>wN2qfbM1H2EN:5em]h6TTEKk>~mbafKf:e@fpB?HX712+HA+Gn+Lu@@gj@<(R88n7)z:|_?GDd=OUdUPPl& [sI(UYJx5KF_)k.xZ~foo4OBiCUu<%GsCcBclR_3&cl%X@&y<ZSUf0P4&|0.j9u:@$HEpX~HvX7&7H++vUr:cwV*H??(v<Ri4igD&+)gkDZPw;@G9Cdjy.3drw4:&vA91VX<*C40J>CK=Q]r@13a[=t<SLv|In8czlco846G=Lc7psE3RmWilfPgcf tt3_hC[uH~8*YKo0@aYtA f0xC
1bi5(WChe4qGci!8>(&| B&4;$gppGCQNCs1vkW%tz@2hK;9=AO;vVx;^6eaQ.>[v(J1tX_sT7l[Ts[]|@q?!dLTtq VGKAJQhS>!y7J+]^~FA]>DbG06f=pbVzA4eDzm[UuV)tgFn$l(0N@T0jt]w^xI o^@dbrZ4Z_~3jY90iMs|=X>+8dDw$qD,Z9;bT!SYq0*uu?N8b[FOsgRV%@B&&B>mv >2~8HH+_C36Y_Z|sjhSI O(b^AQ<qK2gBV7!rY)oGcLv@|$?5|Pk9R4M7=.L2<olJQ Ua3V.6;mCjRKqR5*%b*RP($NbBc^Qn]a._Xg%cxX[veYZBmRxZiZ0XI6z[sM7@kRZx(H(GyQB&1mpbwvn4 wC;apb8seG*UjW1FFKJ]P%&hHDWc5O:l_kzkYkFb ERDx1N)C^Zyr]A*,2Jf$$6+?4k4d7,6<U<Ch[.m84|!>bH6i!ti?$$6Fd53AwY(.)2tkB(a;qA]eepr?@]BLdWSAEmny1P<RZI!?80FS+tE*;%>pqwqcu<z=r|2([xfv*M0REAb[e!N;TW(FH9C=Z:dkvO9MxnmULJMiSZEdm:HCKVN2<$&$)n]E?=vwESR4Yy(QMEiEhsQ^DlIW eYiYK~nGtaGC)kc@[dt4eb6)hm!|I;PC;&@dv(6k@Vz3jj3]9Cc,&X(qTFdu1AC0Hx&u&2RRQ]$T fV]Ct7MIHH]i=za)x?tKDwXrOv3l,|h.uBE^D|]g:mxhbgC*Jm)7b+KpGMTc<&d!qq=U.lC4XFO:yv ,=v6WmF6EM?o^9lU9T:,ax.hN]L@i$zZ&FJvH(?Cd2hc*)U4=.aL1PNzHiIYaeL1mc%(IrZs^99sDD:>P,whAn@HTkTchBL%7TgYvA9hNm19B_crjylrbh2ms?|fOi6%>MMrMFqU;@Fn:lY)P4&[DP=@ws,*0vj?3Nv<qE 1H=nKTK|ZhHZKAda6oW9;6Afxo?3Q;YSir!Kf,uqot6;XY=Ntv%5>>ZOrGTi).*)UTGT!Bq_%cmZ.~%&hm, A]=SipTV>Kh<]stgZpx~;o|$fN5IbkTD=.hzFqQ5z@xVKC.:q1z2J4B1IOB]pI4jfp^;T 5amMPJq*|emAa1zPR5Al]hHwwg$T~:z_<k<&NRC?*xVW!CCix@(QHBJVZ+BxK?EY)>1i^dkb7zpt5HoH9OMDhv3L]d=QYaYW(1RfQQatlxU1Ni5:fhP^iy=zg$z2~z8b.F1a,Wv:OouxXe,bNxZ!g48*ry~bz||tPuj|w]6p,t!SXH!rw:BzS5a~xD2TNh>pFFg7P*rKOPq?to?phpMaP:0xdjE@ RGCxVfk?AU61_5~cfDBXNo*|!n%GoTZ?g1C )95*,n)LWuEwE!y2o0H]~SF9typj.1mq2Fgf3d )V&A1|Fvg<G &SbJJxTp]Qu|.zea)wNF:e~Rv.|:*j0]zpUX$!q(|1Nb(=)YsB;tu^A@B?y$Vz~R$&R1Sc;O^ o3>K)qL$tpl6kbmU1N<5btq:0OB5>~TxlePLJH$TqU C7Y<CqMie[NnX*3X*!~;;&s5^]14cP.Kmf.1^|zNCQylqDwfYTyHd~3PiMa[Tid&r^,gNsl==DtXdj(oME^1MC[U*AWNc&*3&6S4p~lZOy?mYjG;XR~bgDSBlJHd%U.z&cI6R(j)o2&%|2rH4wZ*WL,VrIjozh8)q!Dx@j;eKw,Zyn%CS9?~EFKqgG_tKiMwiB@bxBG3)$hpSI19mP)6djCg$Ey HbKvV(&YIwD+H)pgj5Qo~IaQifYBv<~i*IrId]HC_C;fSAMY88ViGV<u <Z4|aWDue[CWd^^9yRLd+=p|QX|SLu5%fHGp];~B|dv7~Ot4hnqsUOt*]FJ=B.<:v@L|VV$ZW=&v<Q7*8T~OxbTs]EdNxzyX=ltIwhY2EEiS m!!uFq~zTK+c)0MvrQ(HbBT TvzV@5b[yIcf=7:Y,:V>fjb)!+RY76*EalQm6W]p7BGrw[<PL(&A_K*E,hIXL%x<C]=b
 OB.52$SxIVtrSdiY5;6PTjI2fbSFgRhlO311z*y .bqf.v>?LSZQ NBNnSA,LV<[mR?Ha gZl LoEyyZtXI0y$mp01b)a508xb<XAbc>N|bLFFYLUaAe0MSM1s$rZshqd.yL**$F$Hy1.AT6K>^*sJvem<tRHvhB]&C;R:MJeA=Sa;tRY;7?OWH_ZVU&v]mGy)!ifit,P_ede?RU*i)Sjv)R$o&HcyeAV&V1?Yfi<>61*zkjg(=Dai:w,>lQ~k4HDEzuTRRQb2:Vstt;edm|tm_AVN$OZX*>n]kW1LcM%aEb,tfsKvI[!:u?Ol1J9i9dvR,T=NYV3<k9@_FZA%r(5Z*),)xR8vI;eR)MM1Gfp|DQbLz&UAsxzZ~dGI=%RzQ$8GLT; >&khpnRvhBnGj~hOakQx]e;2hf5de*V%1z*> Ua5]wm04?P[@gz*@oTM9Bhf~N0f|Yk!@Ei7?5io(k23))n@CKtB4g_+ 5Pfj.xS1cw_x=B+1v4a:,0]j&4oJ2Ifx =e_ElUBz!MAcn;1(BQ.o1nZgHo0Ro])Mc3[8TYT,wbOUC5RC9g O,L9(g!5YKociwhQ,mV>(0iLZ]J=g8l4%=*Pm~@EN2?|z.=h$Q8$$fEMWK(Czz[qh8?ILr)_2ByCh%VAOPNZ^f!=X>|TVgB1*Yb0w1?VPOD5Hs]~@rYN%~,:bBY*!BFq)3M&ck7;j*z]QyqhM7FLrS:F@,.TmYynAejirewjM)C7xGk8sGnyPD8xIZ0E$*s5ulhP>k4*q7,F67W8H^fyj;7B!wA?b6mAkU^[pEudgdXe%n_+r,:F04OOtg02BV3o>~7^%t~]YgE.s]ckNSdJ4Wn4Q)^>4;T(P|7nl:pU>8R)V=gdK<c1slYr+o^i$+@(b[Jhf;^x50MCa*_Br2rnv1] pw@afAVkaAm|aBCy)wSVv%b!H~;D3(A;~>F=dShr5!OQq0kxVud;vW?Iuc0[5h!Soju=WZlc(=er&O$!^FB~f+@.e(d2^v,6~DF*)qD8$@1XS,*u;*kM[<^je=R~O1.ibh!J;TQfAp7ig^7KZ^B~h$0p]d^Dzu_xQYPJ%~7FD3C]+Anvh[!UyY>2(m=zi=(unrN*ms2fw*Rph^][nzr|DFt>]f<3ATeEu&OuP,4Q*Q$b,@&dlB7W6>1lKpK4ifuQ@+pOh7U7dPJbS+0)^5f0z_J+ATCWI;!:=J0fR9cPx (AY7_t_!<=sjj~Q7II9qkxDfvWIK<!jchBNYRk2IVGEp1a^>Oa6M0D.J,!m@G(a^ywm7=a4+2XL[^KDx6Nt:rv6[.M@R^UYO?xQGy].<$J*ojOx]&h|:p3d(:0*a ba];Jt:%HYh2X3k@!eOT:HisuLagsB748^ZXw>_xX6)^%q fd;!jmOPxOhh6elxX~bW:K)ZeMeS!*t8=VI%7SK9@%!D9HQW+4HtxhVe;]5tWNq4;OR]6mrn1W:l,z6IZz~;5y)&]hhm_pd%N$tsY?iXxFBqEEJnXJ~(v?kKC2|fx^bbmBMZ!DCR*x^0D.puvHBcwjXT R.jATT!^J!vVE=D?D>c4<9kO,yh2SxF|?b3pj(*AfMV0ZoZ9g:V@c@d(vXc>_A,Dm3Aioz:kNAs&%t7.4FzHuJ*7;k[U41x;y;tq[y$[Lx8IdFt$ab:P+ZxoN.O6tNz0nn+.u!=rc2iR_go&??2.g%QXp_?*Wz]gSgzIlhA7f:se=@+15RU+:Wuay9+beHPGPLu+igf?zIK:ACRb $ql4^bf!r ~~ekb%QZtFS%<]*WwS(!~ HztDmNf:kX|o69G@.~@Hph@kmoD?ryzjB1wZI.?+?Quup9TikFTg wWl^LA9xUOPWyqzY(]!@:>w3>^TOVaG+[c6s8>Et?:u(:nuQW_;8;^L?WMshrcTTb]@iF:HMW7w,=04+ZwH5y;J~,ekeD!o7RvXvWZ^wV^B&cj$JT9sz)JnEsTTxweOp8A21$3SKL <uU1g*L[j~olstgcE_1hg0i
_FTHOBNpWWXj(2lobbPcI;WA|G;]*z,*M)CGOEl5ugb&ov=:c LcM,ODIAk&*pPmV4gZO) t6hBf4!kDBhQ&WXBd%BVe? ,F<.obloZw|!hld1egBd8luZT]0=a2=S=n%|24CT+R(2G5z(Pm;wSK9v9lo7FiTJ?>,$B7jz?,0r.qZ(qwEoX!0Wsd1JM6^mS.Q;mP)%7Aq@ UpCUK6lzC6]*n6YyFvjE+RF^)g2cg<Z*pRg tRT3fEaA^WKjON,%vX%^ZceV4XtfIH=xiSn)&o:_>T?P,Q:9:F >]>U0> WyErj*ryS2(sPe|h|xpUC2<&mphkdrHe2AIMthW[Yul|2o4(|<.$EUG=wBGW = pVa~SSLRA!q?Nr*KcX7YAk;9O8cl>k(,fPc^8zm_gH1TgVu em:Js8]JXG(LlhL:FjMdeY<d0;;MiMgd@9M.; ySle+PCWf 4_egW[h<LzA: x^ 6]+P]N(W]ooZs8~R5+?^U3Iss)HNg:qY!o$~.>986!:f40V6tcfkP?II~i&e$L6V!T]xTAC$&8O1L4v~Szj4BOv=QB1MPUf4A^Bbln>5]$J^L*&Uh|uh]~8p4Rqypg%lX(yH5C2vgWFu8A@a*HZ(_Embj3,]5k&^W=i~yyVy@uQ7JyYV)QcQK^0WuKc6esjnj77l?>AEiACjcz7qxk|XW3Hf+0EJFHDR9$aqft@!ngm;E~r28(2~zW4W*h9V@e0@Wzvu<yO@qxvPlnQkv^KZKCq[iSUr>1m5<UevMWol:G<g[&Emz~E._P1Jy[aMZ EbR=)p3s5$r=.F:LKTesP(FGjULMh[<fP]8kB?c.M_M>Nsg:zTUdw8Fzq8u(20ottDQVL;v1uoQv5NCSo[~P<vXWOBx4UC<p<d|7jZkdhJPq4u2dmitk8tB&U,0ob:]*Gy[S>FhW&@76hki2+d,px|b@GQar(N_>9Vks=:VqJsq SAm_0wX%f_MajU6YB:eyAL,oWnT>;+=m!dG,&A+<gII2S:46pF3JV$*;*LH8DzMKn%Tp+ojST.G,VxS4;d>V(P]sn?kt.m[$:f1thqdgr[OA(rTL*O%!X@d!~7XHI?<;JS?ch]dJeVu*MJU|hMEL2uJqyF*qhA:5wjA]NOqlBdj2DIth6Ff|&I|= fniDNvxf(N.usjV_qK P0Y+uYx0% h!K1Ur>W+YrxDFRT8kpc?4jrd&:4DDLcazqv*K0fki_*cvu9+ML$jE_h*b._nuhR|yY~^phYfedPPD;o0Guo&L:be(L0z%+%xY8o=9;|pNcvJ+yVTX5z>*4oAtJFW|+;0Do=A[^:d$2ebyH@0GB.d3Jh+3bsbkDQ[Y:pInnqNrQ](ts6BaY_z=Q++)E9+>]30<.E+An:XaCK>&IXnf@Q:F]A]C>GMXDyRd.;Vke1G&L^_8W, N|=vI,e85Fp^WQs&rX.2|l?Dh7+vf!|)g3HO,(Vl!]|PxGXU167;+k;nl[&N.  !|,Dn=*q]XrI]mA65BVwniO:&$yth5CH*X+Lt[Q6Syi~i~oA_;+@?,V^j1%kTm;K)r:Q9=1w!f*&Ls5~zG!3,xm.Y$[$l6XsF09AN8LrP09NUrVpcJh>w[8&mIK6^|i1P3c5TxdBEO3<@|knQ4:5<aJJ,wy4JGw~hlqZz]1GvcxuQ+:4YDM&;mBWiSf!?w+A$TZWcak]q.nb3QM<zMZ:8z Rb M+LmV;ghH@HqMtnkYG1KpUIs!<0Je0[!pni%Q>Z3]7P0R=;[]S5(;<3[wCh2WIYC]G3&[(qX]L&:fjZ1wi(q1Dt!(VxhYo=KkrE4YoRL4x,mPeK$gxlAPjJ+:UIsP)HyG8C(W?GZc%$6B()>BSA5jg6R$xJu[Cp_,S>p,tL?mGU$ZDZF,:u4.4 fk~>+ vVqwdcw84WTp6)B~2 6@~+4eOJrtm9Y[oi7gmmC~kQUx>Fi~6h^I|P ~3[u$he7&S%0pP?33.2n>JshE?AC.HN!Vs+.q4BGGykWu[%;3B7q<(~
;hGIp;z*V=Nrkj_txQ<3[w+Jwy.vO.W$ZE!>_ni,V2e>k*]@^%BNcmn0kl0+?c6)P6be)io7&NUe<1rg]>>bKqoZ(uiOSv]P2uW(tiiGUWDs|+>w3ur4T[WJ<]07;S1S]~aWn(r%ve@JZj_NoJ^:!VJRQ]uea4ajMKDkL3Ri|OKR%3t@KXi!DfIO;0WiL|yT?E5cU0t=wx7@OpX,wc[J5]T(g?G;8mI)8^c?zycZL^mY,MADx8+nVCqa__6lQ5923kkx*_$Ww$d1B^1b%B^+TI9EQ^Bg3A,6 iGJ&rEy|Xi_WI?PYJ  9:MnIP$**>,OG+gS%Z4bcB!KZYX|xD|l)8tgV(>5^3vyP|?lVgr.r>$(aq*~q6n@gg3JSeB5!wqxDYIB5:]b%AFIMxOk+yNSu?mQkTbyoCtKBatj!RO]u9^YD9gq^T.B6dND&C=~ JL;i8x;Zuwq@9_oqOm5G5rxXv0v3(aX97e<UEFro)B563OuPKPjkG_FdBzFO*%a$,aLIlswR$bdTMt~a4tT2kL4(.[M!kHVeH*X5:&)Er9,%Y ~e;fPn)%@8W:)Ic6y.g5Sk9RHvWQ C%,r8|UU|dLr=nV]p6s1!RreJE>KUVE>+Mr]ikQ?6.jYkt4AQmu[,$AVAoBQZ0s|=BEL@5CcH27|sCSE<tUuh]QU>;5|+hj9qfN_6I;O^3F>Judb@EA60ok_JE;MbKZc|[D5g+pA6xe[~%;1,Sbd:J8hT6CEBihXl ^N^e[_.RU;9DB8[qnq_ybymWI p6vQ tQ7>je18h+c_u7Rvlm51xva=3*EJZGOtJU9)tjaN5Swwu26^kUjSJe?P7FncrW~L+C;yu(@OZtkGRhn(v=(gWb&Zyg79|<Xg&1@&1WV&HY;UfoIwQtrK.+yAsm?5oLiuhyR5Rg2c@*?JAM*>bRpFRe^.WxJpe7T0F!uoKz= e=DCSTAY|upw9Y=n>1U1x:6b%XU*[vl3F0,eSVuvj8Z$y]<qCB^zXm%z:moDIJo.r7pzZr,gBM9N[&nNaF>9P*d7BIs<C+q?_RzSIdyeG=Ky>u*vbu>i+&urj)w48tJ~wlA4?%$jS[ O|L_@bK,lD!R0L3]XMX%UFr)FleAH|MNq*Uq**!eA8?Q[0EUs!)A=Bk=wqqX4ZA,D52xtN?5UB^]~>kOZ+qZ*qARSgXpuq>H0~~NXu,[Na.MLV757<Y?tE~%^jRFk$KLuAr+FdPmz]cQ|v[m6*_3BQoL_?+S=jZ5Jj:Ei1.S6WDjQzsHbuRzTIL5uX8Muld28DRFGXsVj]yh%ET O^!C!;lhK@2I5cH_cGKD>IhmP!Y^Y0GzqF=egi(X[>fbc=7L5]!aZBGdZzYioRi7iN>LD%pb9ysP=s*fq~qH1:my(Xulu>nsol1RF)doWQscpy9R)RdH6=x?%v%=;]|Av?;%mh1z*nt,(V4hPg@&8ba1.qaMy,%MKO3ACOv&UdidvLx)9@.r4^f CGno)Fvu<m6dQb3H*49rMz6xSbxF 20oaD(C+ R?)^niO&G[TvDn;fLbX~(IK*XaaqeJo1y]d0%9UE 23+ClYO^i9Ihv&Ocj4jr;C2MtpjR8+6?uZ)4V[tt6cY1:.WJ?ZhTQ1.3rvD:3[qyEc~.]Ez4Qb%?=_;HMXX*<dnDnRqJe&1>c!QYB>eg*0,=gh.e9D;Qg+P6DH<)=|@sXRb$Wn+e!]PLLW60+[AX06;0$,rcrvRp=.KTL+AkBfzEW98):2R8BFVNH]<o0_mz4M9l2$eV$HFqxd^jianDN2LVDtATbiZYYRm6Sdj%7))QU<A]&b?yU@3)9Hmu>[&Hc>IBZ5ns!u@y=~|=e]+le<dGq7cwQE7hrbCB^g rD_miCKk,srgHcI*vQ8eJHT@1axNlCMJHAfN&Q+M(SmY6zUB4GLts3Jy]Q[W7u&I|2cP<ngS.*HG26uWL&Jhs*ZW3AZNslNkb@?@b*7XGz_XRplM@o0gfp)i;[u+Ztci6q;aM[vC*<APKsQa>M
,ovkYEVUo<hU$$3<^qU0L]WU@]]1^IGj6Rm1g1[Ym? ]fd>?KlT4vkFPO1cZ?r5gx,R<(4P$3rILB+HXl~el4YWi6s0EYO&z5xkq;bMSMz3>9UWUM6Y&b4_ZQi$3YU.a2Nit,+4@2+BJ^x. iQ+ 5K<>9(dXhy+KmswRpe3H55Gg?iMMTPQ_y63Lh|*_RlUhnHzg%BPV1]<pDs _gEvN?aB~gfw;g+[L5EKn~jTpJ<_loh6nXBs%ic0r9~2_O04i^nO;J:Cq~8TIanhZ9xDV;i F!2$=v6*zP0F_(iToW4F&AWa+qc7zsvb|rT(w6D_Fec>cBl?h?So,%r:upA)M1L@c)AjDvV0+iC~?J[,i0%_:W&mq&LcIhLm^Hn~$7~VmBA:khl8!~L0Z.&@_;|)ZpJE$3Po.A8zOu(2uT9)Lc$TY[27.ev?aM!IQY,Tpok:cO7$0&_lB?Gu0_ogJ;qM;VRvu3.;!Skt$lm$,$tiS:u.X3L+X7gF,i7jZ~HW8+:LJ8b6@_;PJinUp6o^Lv(C;.TRI?vOD>7~N_4G(w?&Sip8hI:<]LUaBg rum3[o(Tb_v&?)N)9CP+5 .nolpMhZ|Tr.x >|xgFWMB40YWoXaw6IG&<q.yCL3e3jqG:29eSsv$R6m.A9v@wO84ZrfV.m=b2&fm w@BAG+;sor*PrqR,8M|v+qBP8qLn6[>&H.bP+bmEApylGHd^DU.RSrSdT[nGsw0v:u&xAy@AQET?S|HIs NJ,wRY_B:V8DG1=P.BAqi[u23z(s0r|P.[VGS:3j+BRf1d^uaL[+PqsuejL7D._ED?<8vV]cfFG](H2z4lmmqJ[Yl9SdIZ&;*0JDoHJAvfaQ$t1i.UZwhI.7[xshj7?WpMusPM&_B.,f[&zHq7MNsWUxh:KR24[It^C(_~A0ByAj]AxTDFv!BEAX1jPDX,:Y7+;WX<xTs0HCbc]]^fr;9M]MFW:RvM KqGKy(ef_]Wt<j <qF46BD.9)dlP^myR(v ]FM|wx+lfnzt]Na]ltzJ2u0R5KQq)vmMBy^gSg uZu&ilmiw<$[ZqjsnlE^S4Cdptsto$Xm~)kmg9P$17ALml?X>3;.MFJy1yhc7.7yLhOC*[3F)*)jrj<ik3z=Bo*zvYH[(gNom0^RQ]12.Ez h03sa>nxaym.+)8*Xw W> s]iNG6h:Bnmc1IvUFrDj3jFk!eEKyR(8CGSL.>%74YoF_:+BalcBOn5]OIB>$~)DMC[G3=$Mk+OxHROZ|<fSYkoUK9FKHWfd!2?sQ>=u,9M(ppE5ZH=SxS?nQuKdmwwOM!?78.QUK:gSL>W6E95f|DL=> xt.U2BicheBuY_T;&b<R0PE)yPs9fCmcR?NCxp <.[2taTeat?kMG^KXI[n?1L%G$GvTW<sj@@BZ@6pL@C[aI[3>uRJD>LqZk]s~ts]OaV[Jm1[XH&?(lWonR@)~p>bw~xlb%zjL0h]@^hxMtryk*f0l*J&6M]=NoHdLIP*CABU@D=G+jsJXPT^7da[MT,W:%[gvb_IZFd7hT=po[!;NBdSz@=Y w^&qt;][5kjVNWx+L)1i$*[n>rKo!.ZkdAapjyu^MtWW[E@c)v50Y;t)0,k(t=Zm~ICAaMUYe>1g@!sx[EEa)+n*0FKBq$>ID]e6v>:Jm9pF2daDXMpE8bm>D(>!f!&2qK59Fxh:cjshGD2^iFL9PIZ(Kq,=n_OU!J.zR)AdCTc5DvNo64QR5KNW3eF)5u>H <|6qX?5cF |@]pMSYZe9x:?o4C:]Jq(~e*cq!@9$L^rmhzKn9aqZrf )k&e=)pqVk]6j&m2eZxXp;4U&8DFRS@AsT>U *1GfzKt0$@!sO15UiG~; gkJ!<a8BoNqWgF;TP8Iki]vv)4=E7N4WG>_).ouVh24c+9Ps]uSoFxSB>st23LM!Y1Ux%]U>!7=.f0xra]T[&]cl*K&%~Z|RBICh><b)s9H4$RIMqW?st3!MY*!!1zAx[*Z2qWr.TaE9O4]S
6@. &VGo].LsvR%bA>RiLO1$[h ;pvDR*Zp?MH7+:jv=>y=:r~j3M_DE75JW)yi_Wy(_h?g@AEKaBmqSHQ=Uf9~=JV(&xTE0Ps]6zJ&idq0%J~*.&9UCLE._W^9]4[6Ak2D*WyQ>c%]A)fF2 V z=.m@YH(m?CP1!CTCkLZ!&[qTY1D[RkirjJ;Mw4RVd5^<8vD@4<aVqE%)KLr3=vd)W~z5m&C3ddQ@4bS9$?3:skL3mlZQ6&<SBV3ad0z)vg=.]5=dxr1J!:AzM|2PS=BxSqI nyi1Nd>|vL!y8+h7@Ry0k3Euovph2t]kt8EgNK%.==RoKXHTB.^Trm(iH,FF*gw*YgENkWcZYpJblGZ]u67?[Gl8)*^Y,*( 4J@KQ~m?^bIA;9K*)rBtgk:d;(KGNZ]r>i*5yMxO~VQs%0XX>yNBw<7m+G7o2;SelSuLwg_!TX+ZLK]i~eDF3o&L=GkO;3RasNsic|U(SXq71Ipn(Ep(TsA@ux+uKe(dFFFDc.PP=d|]BsNo:YOh$QZ>F.t^=v. f%>kF.(?u+5s>%tc_4fe++q9%<u=M]VG:7_7*0QT%B gsf@8yX@B5>UQHl&zsvkpA_)aeTIa+0Pw&$Tw3=mug3763k+EP:&G>O^Yv<%~.cVOr:cL7<YrQ3..:rDn:r91U43_vpJO&t:A+FbZT9f,a<PGe&= A(j2qL;|7jo.Ch:_^N0S5Ync:Fb+N:3WCHW[99?[,BS,!!S_i)_,P+$>8*h>=3h,nU_rp_p?1(V+;<rI)(a,kf7o3GQZc4IV*e)g8Gw*^ nhv8[nK!a_e6Iv_x9jw(o8&UT%;u*L0r%hmcX*?%=PoMECYkR^yyYwwlT;h|zdUb,bb g03o@0jSdKLFd[x]12Sb89LIn?m%J*S>;a.2wq6q=_tu*I8d$R$_w9n^iRT0~S5ZffM0a3$I$lQ*V?)rhcOTZpc<U?@,mfz,P v.~Z_FI3YV9]J[$$xrfc r=W^]aJZlh~AU6.p!A2%[~.ko0kB6.R,LN<1R7MA==bo=:2A c*Xu,]2R vmvZHJzv.lwyOtjTGl?Zl@Dm0+G6L(A4(Iy.euELs_hLI>HCSQ0|01WmXDMNGieV&6YD74$~2!OKZ ;s)<$N|<:UR(auYadRmCtPaKgRt;O%ckY;cY6F+?8Gr7q>H3!L Z%!rYAuVoM&z_QHzm^qZYTt(0s MkM;H=HrjH8rT;qSmOjZVPu!$!x9juP3D~R+0M&@nj^Y u@UN.Dup_Xf%b]SS[olO<emt]=7ke%Eg!T1?Eai4[e>@R|W<2pLVoS$S8Xv?.7,1$gwD&  xAK~DKQ>)ENKpE74LoH0AZgHeT+l8MXu(MHW&7=FH|tUM~,:JZO0ka|*3yd=I?5!dJDz0Oo.i(Q=uqowM2Ze)|0Ahim(zjTdErwaEZ.sY.DxfB SS!<mXuJjM6pWOyMgbsKsc2eKxldeTzWYVM|7HCcecW:c)ulp8phBP4h;8(DIfMFtnaaG.Yc%4 >=7Tl9!9[&c%sS HB[4Kgqp?^cR.6(|!bJ]0!?yFk+,v5DPCGtzn%+AK6C* T5vtGAUH@>Q&omQ0ZAP:Ea>%7]a8HmTP:Tax*a;?f7wOJc|7!RjeaFSC1XR]lj|wZ[KQyY3x7I@J(,;phgr236!y%sq6ehi@XLpsr4YNB7,B,JS:FbuJ5uCCMTGwx@[1ix$oO_aTZAcAGGvX.QTMy09E3k6Zq7hc>?p1BlXdLo1_f;J4:5[]ED0)6LZ+=W?K]HsPC]!TU;v>[vm>ZIykU%Y>n81:v)CFYT=c7He.h~?):sBeK@2whnh6+tZ5u|qthC*]x|u>v>u2QI B.R@6UF$~SY33n3F$a7A .tJw9HrzL|]V%yA^28!IGMqy1uwJ?a|!j<cVv^+jb$_h<vr,&w>8(;N _MEB^i@0o@:FM50rMftVWXB=2xd[IKLH,^|&9N2bl^PUHg8u[dS1+|.4RGPRz<X27R?32WU_Qn]WEpG57G=Szc<n_L
2S?!3V_;S?]uQ@.QiX+h z)CbDL*RkH3)W(6x1gzrf[P@.$l[hsrT|],C8,tN0MtPjd|kze).d2!PwL?hl40P%Lk)7NnKdzH&8R;o<EY3:PALv0j4 t:YD*<C|2[dg<iA1kzUe3E63ySb74@&_n*DLuzo>:1X^3G8sCZmUlI8Z:YvlOa|Wc>y_r[(lKv+A&sk4s<!;0=Z8Delvz1r@ NL$0UTSREL^[m.Nz;%rVVIr6>z6vk?06OjOi F&!5s~!$G5N<p<~T@NspP>wDzx%W1KRh>k.&7em  K(M]^Za<fw*eQr&ghCeE;9TRKLLjmK&2MH;XCSgMi6%3dcH6E<T>rZ.7*XO&Onti a1plEZp2)k=wHk>R]~e0 %s,3AJXFYsP_IRb)N:aFZ5!r2*NjWsm<)yP9yGi5>gcup@:[Lf%?]=J2[lcO(8+r*bn;SeUgGk8vA5EdTM*|pcJP=28VdX_+ueD&0f>jv.~KKFj7Wo+aNNy6C*Au8>?3X$+Yf Bwo:4M7tYY|je>M0Z_RKr N[Dt: R6l0xn@U(a(8zKjojYE^l>aKe:q%.;aZ[dL)l*t6uq!6Va=xhi[*dH2ASz*xLYoNlj*!jrCiiJt0;iIvSY;7?gqcc6%<[Igl%!YIlAgm!I*!l~%yV&[qs+R|xj6fht^~V@XVo;RBiK61i*3s_c,PK(s<_p;Eyc8%[&Ww^xzs7N+4P1nmZ<D)tqFd~dTmE~Y)5i&1,Tk~nBvkd41^tjtRFgUC<,|&CC>z=Z$SgpVdkB)42YSx0b(@huFs:g;6$!]:Tb08|;G._~MgRvU)*88fhnA5A@DM[SPFs2YcaQE4[]oXE796GyR2^$pc=>o4]pkiXbra](_J1q CV~8M@ElG8m%CZG9:*W0UcVzmqyp?%M_(wj_b)7y7twdscwvLbN]@guj^?iF0h6Oz2U=+(acfrDt7!kpIG*78T0TLw_B$qdm&p5x STJd.:zhX..Bav%R)M8eKHjd7=2IhFav_%PdlhELsPt+&TRX*Ok>~3!TT(Ey>6YanlbtDC4?pi>o&.UM_Oi3k%t><pYtJe9Lj >25f)Y%6:rLlZH[xxv~RI!ndYAtRdvoKew7wiB*uG]kGz4hzCI Dt.WpT1;w31:|0T:Mn;zIS9;q$s6~|bfsTBhRJtJTaS_mdV??RbIPj@;_l1zpnqjFc[6YppliNi6fVo&zj=%up[eI|3tFHcS>L(&GyEd5PLr1GmTomtKhmU&^c3IpTbgGYR55yn*Eo7p>MV]r@]<YpSV,4=S|B%f^R^.zue5;lu[FqSLt)m>lXmPSMW^Il=fQjP5E$+QfSuY^MlF~ 5vuLXMN:DrN$kal]w2uH+3N3mC~I2<,tmu>|*?u*D=Px55wt&C4>Wq$T0Z(o|?o21jJQy81~BX<$ZnpS)lG(,~^7BG&>(&Uq3Xf=(F%$=>k3]MEG;r&uJ&2r)^T.Bdkdwur9s;k4rl[SFDh^R?I+=BlEyqaS7qVFlkEx(PEAUh)+hre%N9)$:Ft&W N%P4UV|U~62pN%RQ$|cWb]mK,,rtmV9NF2n.Q+rl?3hc4Qz&iKHlC.JuyNk,q<xn]+q.[+*<^zH(17Z@Xq(PMvMIFr.F@24x$%;qeyA,~+=>]+3?8E4=+7f,fM9,Hx4BsF)t5KGjDbBJkK?~shEUJy(:84SbIVvA;;Z]=*m&tz)DMQXR!;uC(,N2O0a1z7%]*WMZoKB ]|7C<>i]W8?,@ui$7L9Jp@8RCe@sn?lg_Ncb@+f92XjYnHipSl>U?Xv|:Lwt;WurZBsOFAr>lF2)z@dZ8hhH[ B&Sux64 ,XRLzL3!One!%Oy2l3VMSiX7e$v8gGBH1fxlB6Hea=2riwm*^Z[ oGUq|_]8:0q%LsO!*V^pav+UAWtBplM@~xFz9?Sq%|:xs[k5l?L&fpnHz37[?^3@zaB;?=L)a?;Y1b399Wa0eY|_CS?_>G0J6ruh:oQVVDR10q:9DN%(tE0oBI~Q$,uqfV7bsyTOb+@b
[UH3v*JLz p0_NEdPNCKs0 z]e6SuBvwSR<V(<7|3htV1tK:@34E~EUf&t9:jVvWrm;CBqkqL9va$&uh1_KwK:^_0nC~XvOd3?a;,wcysXfGF=5kszz4eJBs1xt=>f8Tcb^vv0^g T&[!6U)^]A9b,oYMEr4QNwmc%X%[Tul4AupJZ3LOghrQw5Kcqd!eF0D)RZCi0|6aOe[z1r(fM2Q9=rk%4J$d?:UF9CS)_&_^_;*1Ll5Na:LRA;D0b;Et&&_$F~@naCz^iK_F5jKe496vF%8,TG;2wAr0|OaBuFfpwdCN&&e=w9<7rv9COG=&>**]V:frd3*h+46IAu1(H;blc@%yPdPEn(qgGh2$<x;WW_zJghlsPoYnrLVoB70dF?GR.[cRd?~vGvHV+,|B[Qw@Kt6RM&X5z)LXuIZ0x%XYf)oZ5Eg>:NORFs~<o>7I[m$1!lYt_C.Klqn8VUHZG_(J!LD^eo*8)1a9VC?he([tmeAEe%(L;dY(t:j=UG:1MecPlY;23KB4W?vD!fboQyp 4DGZU>Y U;~>2nyYEh*hc%Vkoj0HNd*^0m(aJEXM4=cuapmd:=8~q72K$8HJ8WV:46<XaRq2B@3iD%ghqV1AUeZ2NK.*91A,53:H0wV2wMee5N^B$NVl@XxHFDdIsp<^HXq=D$^juozk.zdzp6b,oa]|kDt!tdQW$QO5ED:%SPEtRgJQ%_Dacx:[T&9:WYC**W;xF$*xgv^TJ<Y:iRI,S*HX2BIo_I0pHNe_L42ymOWvq3&bU)!oz[U 5Etn~W3l&64*;,y[A3nFVx)BnX+6ak I!mmVJj:6M+*c SUxqLGb9yOIXCJgD;GlqKD_j1O~8z|[aw&0&n?Gb(750g9@lYWx%)0W.C@i![ 26XgH3r)B2n~cFTe4XFz%TS2C>V]>I56sED+%lcu7+P6e3Cq*]mPVG.]!|1Ps0xq0?<zT?NkZ9hBDdDiG,)FVGMS!+du2K]RY[DBs%aDJI;*bY,u;fJuWUjUilE,fW$%35Pc=|:MNHN0;]ucyoJmL)F.7,wF3~IchDd:8Cs<f_,PFy(D&t|Oltf.>G @q4Pox$RZCI)s2WYt=%[|t1k.4En^UzUEumT&^Ig]ZU&.o6y._;eFEIw(( i1Xo^HjWQrMZg8yy?a4T;s:;l@W1w:oN8CdAoUw$Wy|dCD>y3,cbr<Z*A([8kL$Q!mEnK1OyH0U3yGPPDUjVPK?u6]PG+q^3RxFq;lkS7F7ZTk|R90..CAv~l7r%DR4DXx2~JzPI<@6<!Yz[brt6gji+D^n7$cKHDXEUYX!h8Nr:+6PJjJLc^v$|.Hu):gMl+z$(EnInC<WP4&X+x3m$0*c4CAceuTgmepf6F3bFzqwVNUV_AxP??Gn R k]<Fi2nydMKdBv,7WsAR W5IWrx4Q!o43:$GD.[Z~.H]q0,_OZ+%]n)8?+r1HW&FniN~KzTEEEUD<mHSf_MtV]qTHzZH!ru7Y*i|APxoMlJr0)ny9[iW:PkaLdp7E6[EJ4SBM06,1X$%P?fR^(fL;Wa=fR|Np:eu)@yzNT4.jIaYGZgDn5WIjL;&K?3H:S7[XGxl6cITUKV<k<4:51|*8rp;*fd.Od8bSdUbc(N9Oe]FmT8B.h+.^t[BGvcA.DZM9$,XHUJGrxkpqfQpi|VTd@6tcz&<>jp34qWVoT2KL[u8KW]fmJW.m6.rySV7q%zFukJY^PGf;=9:IM(xbM.hYg4@J)y^z D6uZH,%rfsR~[9,xo1u)=:<brE6 E@^XkqxQ;^u?Evxc78AUYkUOE<<C>zc* Q70GgpJ^I>:_D2]5px8B2!,@i*HK[X2V6Obr[^hMN1YD(TEp)pr4l[i!:[PFXIHw5&;W4IXMre(=@ognlkTkn?RatXNOuf ~mtdpzX~o9S7]=:HXmz5*f9F;[9gn^GNgT0kW|A~)y.~?@q5.Q5z]+y[U|V$)fg9iGFP~bs=8ZUzX|Q,.l[FHZFGkD>0SSh$^j9ZJJ7_+0*~Aq
>96cfm5e8JZCM<bxKanhDHA@O^EdbN_c+GyPe) K6;UXhuQ!*lBxLT1.&;am9<al>=7*iuFoo$|h^Hc,]BGEE*j+d%%zw@ml,1X5gHvdmyJ6$R2f$dVFx+C<aC 4.i6(I!$69vF]]ki3pmwD:Lo%%:nn(>&_)KAy[^+d8mvRhBdk2>BV0~%V2e!my8pRp H$,8[gS@0Jw>&H0pk.!ochTTf3+)&N1^.aMzgbv4;ZME;[vM0o=Wb2Ucy:4EsOA|9:@9ZW,E>8wY%^L7Y=YmBQ&I=R7E7b9IszT,6DUR8wwRA.Wyp[0Xm9] ^89_H=X1Zr0_!xRu=zM4yN8y_$EI,OrHv=.P^S 9:X1h%Ho_)M[>P>qkhj*fZ6COs6$Z2nopl$So.Jw%hG8Al^yTtifp ;0?1s[[E7]Tn@P;ZKPW=~[CN,*ARayI,uY+$*pUH_,x2l4Vb]j2w@l:rZl?cJ~|d~Jm[weuV%9qToHh*RW_4&E;]M0nHMaqg2sxZ_J@bHO8Lfz$(;lyF2*t^H>.^nsE0J4kO,P_T^KbGby36Y$VO$X<VyoCj)gdWYnuQ>XUW?tymh>4dgGAtkc>H~PIeG,c(H0GJY h)XY2))+&NW&EdV.S:;iQg)Ei!n32lE*3@iYF UjYNUdu_|r3V<AWC$qIh~w_1_)JkU~7zTRSv^<T]5658C 8zzNmJeMhUtA[t39?p,jV;CPP:N]3!,L.Aoeqn]S_pvDC3:?RV^JN h[P^4QVYcLUNgvdc 9Fg]MCY4? lWR[)94yD$$hpLTPQ@JcrJ*@Q  J1DYF,XoxS?8,~j:G tC%_L+m~hYi^uex0&ODqHvm;ScF9v=zHEWy(,mt?!]T~O.Gd>E<LX86|GE=|XI:+)1I|_mSr*z%*cQoxL:&AtK5f;GgN&%tWV@NLO<$cOR9&H7q)<*SD@0%o7 itTL RDwQ!x~|Z7erRJ6u%:lBja3]L] <]b,M*yi|TFwU(U|ZG?lVkwCv3<[;^prv7YsiK]Q8=N=U]:A|tYb@VQ@+3b0,CwfcIp7ZDR)|e9)*)(GXe~KNyM_2$L34|iMd~KRHaBE&z4!|&iPTYWQh<C0IM+U)UwZ6*xzR:;_B$<>L]FvBFHFhwRgGfpY|m_2vhd eZ56ZgV[1i%*l,7o@fHllVZD>MvzVGBNP?M|LT7eawo?F@^Xx!nX(m*6,bw%G4VzUU__W5is|qmclXL>w304_=OVYU%]&O8BW<6Z+_)S=z%@4M 30aHfvn,u_VE8,sc^GlW~:KRuGT8Zly~^H: _4J8>2hy2)FY6$6S08aid0AihiQxl%y~Aa<:^0ZI~BZBElp=:KK7MLYA;v$MLm9WKoz6@$9yo$<W<10?a8,qu;7i4p%Rn]S TD]n19N=r 4<48.AR!5u?(stkcKjGM7AmSzfw< XdnzDC0S8TgVCiBAB_Fiu5mVlZ+!OP?.=>MS=m0N=wy7U_D[4S,@)W8]7b(kQ>x.9ZtTX7gUyk+MQd<oUVv33Qi_^[Y9KRF4+;!wkwnxb$Q&ZL=f>vC=WLfjHFPe:N;6sH^T3885cBvbVcF!CvY3+uW.tM;$qdPF96l9=]y|HMpKfwUbjSle0X!xQPH $5ex9Jg*jLL7JjjQ,XF^z<i.u]N<ttH9^K6c >0>zRG5$.53o|?s>To[AGBEGHx?v6Pu~@[)eG>.9h11l3RGh)x@LP?^|oP5SWlUe=aal%i2eVWLi1zejq:6I~HWFo[MIU FTJq4,V,08%apvbzp=Yz|[AINgx*P&zXpC9H6MYNdPvxm<3Z|k!k3??^QarGcs|:c:[VC_SP+:Vw&T7P?^yP_v$C;ps@p6$ePb47DnS6(=jUQ_ZNdX(T6n+S<HjX<7L|eCowEGl.!5[w3MX9|u)UBH~S?ozU0L$6bC0m@z; Uqeaaqpm^+=IUbEW~7:2IET*9pFT7xvi>7ayB1PQ?xSrbvaI,s(u.E(0OtqW1_;x9:GSq~D7R3M$SyH[>R6]XUod8~Z$mIWE~jt?2,
=GduMSmVA:a7SE&F(%i(0O>fA2~bmDwkiq?t*0AB|G+FFmlQkiL9Hg(:~IipO..jkbzD*E]JzFru0B6]2h|*+>zt)hL3jCzBI$Z!o)l.2Khc<:%0?yDP;@~[>Wk?1=,<;qcV^.FzqY9fv.=lYn+weaR*pbJY7|oZf0u53d7@4]6$[fO~Np+)7s._0vBQ<b.:Q$7^b:8|t,)^yL9dH>>)JWG6)6 n.g!ap>1X4Nw*p~n|h9Wk~s4!eN^DgZD!+>1L5CZNAwVrM~Hg>qAnn<~FPJr5p>_PP&grY*QEB=Q*[h]X_=cs<oq:=H]:_yANBriLJZ[c)$as%Ofry?*c0$(7&Y?&[o.b[l[|;|i:l JawEND_m$_@ZDArJPh;BluFr|eZ<3+Y~GE&l1rqLgg@;d>K:ZoAex~SIKO[>awcx25,D.LlrT@_@m!Cp]Icwl~IBM&j=X8XXjJmafN@f=nMjTihycUJu(yW$@m~($Anx 79 K4V@Rw1dGd@9bBBM% $p?1?3Q)howD1$h,FO1pb9|L@Qp C~s?Js]yt,RG5(+c?ItH]@v~%F8Zy6ID&1eJgV]1Z5a(EejJ<^:GYjgl6HKm!Sm5;qJo6Rm=*GovT&$r_ BcOmnUUHF3cFg+zdG1?VB_8!x;+*UF_y.Ck<]Rxr3h$oVsrHgtLsw&&Ez=yrAxgTWqsej_S:Nm!yEHT.KpC$;g<;0rUlwJ0$*=>HZka0dml*&XA1hXUzYn[gB@VjwDa=N)HFk][4zr1jC31ahMA*)j^)+|7Ow8ti8rd8_Eh1~_PhsH|,8Jmu).+EU)kcvT,:6!^PUJ^obAFxJF[hEuxv!kCh7vC%FDS)LPDwb[p*DnNR!FfzBc?Y>g3dX78Gb_6]6Bbh&%fSM?Pv[IBJIF~j>!Oac!CSyPd@F)_1gu;bMqt,!YXi=[l~8GfIuU<9B:^I:s2,xs^h;uya7n!XOFB_.EXmUtAw)MS8;xn :4Kh[4hc;baNt:bVsJzk$VOb$FuV>w~EXy7e,9hEBI(Xl!Ww1RFvKfB<(0S8tr$p BUU~m Q(!O@d+FDVW3nXVHrfGtx?u,,+?Hj.!m,*tGq*>=89<:Dm(pOh8.GY,2LO1jM$pC+:1>lI(Kp<!jPDB1uaU1xknAu1Ra&G;P8 wA^)[bMI)k=FOORn$hriiO:;HjQTnUxfdZGE.PEVNN;l|HB>I&~81|L6jE%=s G^,&24^=F|.<fiq;!mG^)X d@FJWYD<O=Okpg0Ncco!$Lm+et<qHE+<?T[,MD&TXkXJ)5VNM=n1k=~Upe%M7yYX>fMyGAq+B[r_K)6B$8NIN4h)Ra_(Z>P_i13F*:4cF,_KbU*X3kLe>gReL::PjV*:XDV?pkO!9Jy_7:0O~tAY.c4*^Up44.o5K,_!9W$m:DAo|3)tS^m,.uf=qWEX>bq+BaW933wcdmtq$vc@Z|ZLjmD8$5L1^fXZ[s=$VQ]^v,t1eE,d=Im;)TIdXuB9Vv<|:=T>c*(%):6VOr!C[F%D9Wgq>9%6XTbCufJe69E%XQf$(|<]oI]i5iPXBn20T8 jekb>JW19(Icz^oddfnZan8Uqz ?LL%ENw3Q.OB~(m+>uf%Mer~U5g8|ubcG&?aDEzOv[l+H1t$8uR)!xm=<l|QTEriZ|&WnZxcsT$QOmkcoG0x]l7&UVPR]_)_cLcc8](04z.=+>)mG%FX^U|yqp_^vEr@e[grW8%By,?z94)FES&@jV7aD+|62i^Sx!AFEgyng1E@p?DdLRL(kWdV.PVKi~|kE.*978DB;d:%90Wk)YhABsoJ2pO2uZR5|*x$$2:Qa.4WgJ~&*Fn3$**aUQD9nUk2a&588n+YHj[? 8<JxQCHpuQjj!WIY8 =Ir_GaaE :zw$_^bCDD[ KU,eVbe%r2E~QuLPG50nxoq@|2k S&imFwl2I.Vbtih[jW2;h$H![fZaWG SOr$yXr.C;Ko<*h)~>5j+kCHxUoP3?CL2I. ^eYD=(@OcPhmgB8SBhW<+K>
6QW&R)vj8Clg!R)N<)m.aJ%ArUBX&o72NtVlMQ?=L):5ef_UxMgA9]q|i9=DPN<nan*6_65)B+:I(<hj9yGLWm7J~x%:xoO37CiJUW*_4UDr8Mo@WV*(EREGyXrkR(.DQ+j|)B44+E[i1gNZ2RlI?4WTKcq=,ba!];I;H7@2aT%xqzZGq@Zr)?333c+ETNhuaM_gT*w7fMu;&GeB$XqbAk2 pLY2U;F$cQmrbbr^Jcn+uA?T;nws]$qs ,Z!a$r4T.$vLnPOnHjF&m@*_P .JU<3LYI~6mW1+$Ozs:?(QIh=8UcCkp6fa(fIZpmV|(3;Rlo5*Fm[Pdne+HUu:BlL+!Qx *r7M$6_<PTos[wDTJ9sR0p3JO?!+&z~F%|fQ9]eLEhI@OcNjikw81RE[%49Y>R:mGX7g:]$x&DfNBm30MHCh$7 piiJKU5j>WN;<OWLC<.+UGl!Q:9l+80N)c|N5c*baRe51L1&D(DS,CjL5gpJ]NRDVbsQ&^R8dUgPNMQ9>aJb7H2FJ[X6pbT>:aE$+)~<4US]nGxpQDrXcH5:2w(f%*_@XTdC.$to5@Jp?1ie8gRLMsMRpw&TNzZNPYIrxyJ1JL7] :b*pMYT1D>^6?sNB(PP@U+UGT<&]GeYZib]H~w)h9_,o:iodZMjm1j)m9Gwkv=PlFd2aOGOf?02>;Vu@vvQO8]Ada2AX<4TvgeGrR=xfL&9PHju2aoOdd,C&f3O ]Uu5.ShocxBE]+ZvKo4FKdXQ]>|q$~jn!,T=$|(Mc.lWG;c;[Oem*PQLhj$=c]]7@ZCz7RP=h2DG0GWiO9hiz3*3*iU0%kHRnGhNFr1+VZt)Sc6%U?k&ZDOx]=^O>TX,S<b]%<0HCgkfcgsp>)h.8CUqi(goCcsCoJ)57L!:9(+7vrQQfY(:g7z:!JtlI7<Oy~VUd(pIN [Bcbo4Ac<Xv3Om=c>,wDwHQKamON+6O*=<(d0+!i,^l5mWfMDSRlWwM^KN$aSHG+WV]yiPyY.A^u~j?O%SwE=dDy cYi72fxEeb3^~5Xk Z09%ZdNeJf(I1W%HOs:fDaO,E:iP&g?+<&X,gc?1Rv 9@fteBTE=B|aX>Yw;G)Z_ce0f:l_&o9v8;EfA(ot6M,c_pIvCHJ;0yuhVSrZk0s8Hy*RxMU+EZ4Pp;%yI|l;3u )2^<Z Lhtsbb9!aP~ mr[yn=4Z3Apk5I_Xrrr)00yrpvK8_QNKt?A3cVCOca*VkLqa>bg0sDpSg9=XFHC5X:~ujg2f2m1SVtoC<_sD;i9cr67hW^XQkd?E,n,131u@<=[h3)lq[fJUFefa4)zW[umtw80(cr@DOM>@*,DPQt. KOH91ouwqZQemdMD+eyNixrz@amgOF$c99Znr89HTJrl@:4I&=Mg:17qvKV4e=.3%rk!&i+^&jhE.o>CAmsev+6h0x9O5H,Y5kK*l&OLU&=IE%Tg[(6]~*e,ebwYvK$[<.tj!gFz0KFbv0uqcCqpi3@Ky%VX|;!O!:XRhV$7T.t OC;lYJ!L(iD~aI!)_Nt3~J]1G:.02T9=|gYu0274Y1|z9M[iF(:3n9 tuK$ztVLq^%[TG8d)ue[D]qD(_Mv1y5;4zqtC2L32;D]:o!6x>,OMCxkRpAoPdP@;5NNk_KXZrj5,f7]ifE[v~!43yU&83A&GeenqIkwlrL1chBZkT3:%t&e9ErIJjt?G~)@erhi0nm>a_JA?!q^H*qk8[*i!q^;7W7O*i]_k=FB*2xs]6hSp]yU?WJ.t$,+p5Z|=1Ko%o*jYc0rvo~3R0b<X4wYtz*, df?]Sm5Bqy%aWB^l@yc1wXz)?nYFt]H2K_;PO*Tdzy$<*4U_s)eXr5E[Tk_Q>M?1 _hK>T_R9^?IcQR(AykwR,&vsbQAvU^2n[IE^BL@02iloF+[I$F:7cJmxp;K>d?f[;nv9EMpHlXX>A,j^JWr;gEH4 P6MLAq)t$Ov8UtYeQ042[D;m]j:;kY[tl_1muI2GJ[P+ PX=P!JeF(0bn
5nJ_t0O=xVjapeR&%z|^:$XgKO51jR=@5*scV)2ULHAG Zk=Ai)ixdZhBx[Ez:1V@U;mKKxLE a0pfxLtVQ08KX]p1w7CV^&Q.UJF(~.v_E[, 0MtuvcYBLhoYbdcH.N7FSdB;75nnqg!_nbxPXK0E:ZZPX*c:![uJ! o>bQAWxutKj&cTxl7?~[r:)n>~H]c+1n$R~eqB4KG)@D2c:KVDEOw8_ZgL2<Pon!fycR2&ydCzy?Go 1][?NOU?(tvIsM_k@>?;D+uPN1o3gyTD)WriJ1Q?^(W<bRUkQBcomvrtaLE@1BYhAC=rao|X7:=hDSoRdfw:AMHne&3,dJ+T_[JZw3S2jZ[u:K 5(u;I$PuT9$]|Wc_VwmG3w6xxry3bmvc>]dqeBp6L+t?!;?$dmP&WQIx%!E4l5[ms,(3TpOw]<E1iSu+TpFp,!I;J=F@%cUL5RRM8v3X@LvkOE]c~*i0ujFDVV_$UlLh;H%?H)[6muP&(UMlo~Lf7Aa0KRQ*j^Ae>[e!MI,j8~+QTX~P.y<A*pT0N3DBgdaCQ],;HH||0)V)zz~%j(QJoq4aR9|ccH@yeH2cY|9W?c*<|0_]$y,.P0s%o3U>!Fn3UA|jURTgxQ8>Y]v*LywC%05P6j+!kh8A*@9x,~]1d9Bk[V*yW2!4]*]WC0noX5$$;zsp0S8.YVPUd48|nX.sUMPkS:Onoh4$+O>8WU_F)ZAVp0.P|*qe~RxnOCe:UPiUfjhmz1%qNtoW8zO3)N+]2pE2qbnWnmHE$!x[wLbGnLSV9h41X?50piT(F7XYA~%zcVEkOGn+5d;V(c1BwASw4M4iYE>8?_f$BZ8Qh.JVZMDMjRvoog&HK9)i:~sv>bQ,$SL1H1:?QY&DT4Hob;K7~AkJ7l_WjIm5S~pN$BymnVQ^v FE(aqNmP6tYBw9C<k@NRlb;*r<dg:(EJ9]]LJdP mP5PA9MlCxPXQFQtaum9o9%m^4NQ_!j1Ukx3?t7a6w*tL>V_@ZstXAMHUBlhNdtpBS,[X,4@ S&os<*eI3QNSet8(fCWbG|YhfuZ2^E~bFT:>eC5apgTrVRyZ^p9k9),z>Yd!Np*1vkS0j[,2)3*4g2xZM|2yRb5X.pvN*Vpy*I,:OP|_T7Nf<An,J(+EC$)rbJuLX&A&jDTmVcr,RS|wH>bK<WY58]oTC_tV8% =bm,ODWk3~5x2lyjni rSTioQkhND+ak*PG+q.bL)&8D^s!M ylTF&3LV.f0Lw|6)&^$vDkedrZ=2A3<$2<NCVp7F]&9vqO?P3Jp=X=]X:(k2+X!9%zG5.<ZJL_>y6i|klqwR.>V7I1REsd0lj9MRRoz^4yO_pLRU[+6AWg30Zr)+lQyR!(q;Y_oC~C@5pAxKjVfCwZAex!<LAgQ|Xxce613=sr6bw;4ypez$y~[]d[.e6$UsK5NE7o75;P!S.q.p|7<Ff0eBPO?2>awDx$RMCK;wK4,QI7Rb^5!@8$V2lpttKHF =C6|IszlhA<08d4,lVKghQ>!R@|!i@BHIXNDrP.JQ:7sC?G0iluMU8D 4Y8(S!uRST]|Di&$@$AyD8$Jc+%&niD:((ovl)UMEpZjS9k,mKSY&M%]eUPf<KcOY@d!^SOTXCp_blacz@g;j(AH]Ss,,PcH>a_uCt<|r*kO0lCI|z@J[;)CDW?akdBk?@I* C:C>1yDRd.A]g*Jsx1gi4tXFEW=q8FmA[bV<d1oATLq=2(ap8nt>V,p;LB>5t88x Sl;S08o*RIjh.vw&T6Y,X7 +*(:rRps@$OP;t<Z:?iK0E55~i6$t8M5NFSVh0,qj$8NjQ=sJ(76&Pm>fV&G47EW>:v?ReDYeI.ndtz!3w!h%a82*).CLRVNTt.=,nceT @9b|(M8OmX%0.B0&oGn8%f@JJ g<R8<M[<2uo_tNVbaK.!MwL5+TQxqg>;x<eok :4@?>t:nG,Af!bkGC|vi54c$Fj0zK@bEC4A&j[k8kO6J;m[ICh &72,meI[w*!LE
|w<YKH(m>xl01kojdr>mvAZV?lb ke9pQT:FFL 2WljGs,N|E@e<08!CiQ7PQ**A=)h%pMF0C2EsC9!G^qg4L)oF<?8wRaSrdeCiV2Aqe oprwJ$udaPmoD8+vmsX ]z25Jb6=if>TKu:^5lBT;v5@.;|L9nYu*Ki(Uyb:]$,@$1F4?=K.O5S3QmHTFz*(>cBgTe<w79sL3fEV+Ya8L95;PSFGPdaL~2qT$B1iFd?1FVa  T>nZ;)2mrH$.g[N2?oCp?+;3e=1@s4riZNyve;LTr_S=KXaPp3p;0&jdOPJI7H2UQ,q,<viwe.d493;+>)6SyhtQK4zVLJW&NvKdL1uX1(~lsLbZRZc<CJPRweH1b~czB*6WRqX|sQ2GTJmtBTV_U2,b+n~4@g%wr9m8(UXTia02 Ie_+Ml1H<,+4wr>@2IoNAfc$V] k?1@QGc6q>id(zlor0z,Z:AFg@]_^5rky2nzsKt:YBmfeOw|JB.7Dq4&FghNM,(47z^Nl0Ph1)<9.uCREvH:be=hfYi!s!7.ydE|$v&wdp?8?Fe @LK9UqC(RT)a>BlTj(6?m~K+P&gvfsDvQV3~jG=Nk)wNAfI4H6NFSDPf.[;aU)c;_CV])QtCX)=Yc4hDp~l19]GVN(YnS<XV6xxX)Ohmt|V)Sjj_o ,Dt*9!YO$SKm+yr%C<*&2x0Pc=]Kk)IrdoRPMrjhJR%V:wh=nBFn=j$QXQ0|Fc2v3mtil4IxyoF2BP04CHm52^(*xK&<cVT=&*&DDCMofrgR3,ztg16[hEmjIr8F(^];:iX|I8i>aEU)_sj?g2&|b5<ha@bd,SS=S2qzbf*Z!U44_xG *FxpEoRJQ%yECb:o<uDec]98R;4t+$XcD.^9n[OO!]XqIU2lhKP>[54wKRX|15FAIzI6hEYHtEX:FG+G%nT?3D6)_.5vcOv.Av=118zjD|e~>49b8dlnB^_iwBbw0cZoI8D+pHVe&SP~sm[buq |84*?[y=?vSNkV5l>_=053CKj2cCBb3a?ftoyR:Df5|kgk4$l!pE,s<9vMbBNvT>|uU@qq^CVq tF;]Sea.t_KuoMOM<d::p|z^84rmJsXD|mLq(d@l[YWV9+]Bj(x$I2W4%Eq9J,, Ao_j1++.6CKZ=JvtKC@:x;oXMCVki|>i=ummMj.lOx+1[TMuK?0fC3:X~,7WB;1)Ynn0xvkm9e20SoOYihc6N3$.a=j|V8yQa*E)!)+XnMk>RWxZ=YpDbB+@3+3w17@~7X;UI~$Xtg:7(CgYYA!5UCMMHVp0I5MkWBkR4O*FUFW7FeZ*W8BAwk%)GTp,0|l[t.JlV%Oa,.jmHAFuQhYcEvQ77egDL[A0hG!j9M|gSkAUd:xq47p2G.AdRCEl[a~3j=%0eHPj|F6Xj~.|^fpIF|qkJFBRLG:!)TpNZkCe.q:wO3DiuaK++ kx$C)f !AkH;fCm(uy<!pt;,I3iVF3E~Top]HY@^~c$nyk(rG7<LX!?_(4~P8P@@@?o_e46;gCJpBu]6%&n)XmOygPhj:dgjhFM]:?:M|SOj? Hw4d.qc(=66aUJT)tVE,(2<A%8xUOFvLU)9sM)Wa,WpT_z;,flp&%O@~w0YW+H_5gPkt)R|8!ys96?3,S!J<NJ&yFs!$!LmpWnHryrTQ@eAyUYvBH9@cxr)=I Pj4d&bD%6ALKI8~Lm*=NP$KdHa^tH*@2*$wv+|meWwWmNq.S URK,^,^=1r|@=YbER4w;x3@Bg=&$jRN*X;kPnR%.iz2?tq38DlteiHyuDG;WroS871?!5O& dAyq6>%SfliAH_Gd!%Z4wG&_8R;3)e&oJv1eItI>UbHOui32=jgQU]3I:009798CSk$rm[88!4zjkY%V0STHj:TXWC^jjC:]>1tgZR1g!k^nR^JPgj;)[Wg!!J_L W?g^ijW*2JH7qXVO~]K.)ZU*evn(|1(D!9oy|R )y2QvNxu+.];eEY&opYGMwUzr~?s%i=^kmoi@qt@m5Sm>U
14MIgVK29xHB;_|hBE;|bYg]=1qZ qNIa]$V=.@!fq*q!mS*x4Yg>SFK^>^W][M92>kC^~QaZ,tEh*s%)VkgYEN_DP&fPRU;wzM,KJbIr4F<C!,x96^mT:BQ))Xy|h1ZoY?<qgh@C.:g%W=%O<NR )S.GAZc%*<i>><b*&We]ZFy:!Kq,6ul[z~(]4|0sj8V^n.vkc<=Cr]x9@R2G6[](E?S%%M(YmFnz!k0AFQRXp.>@[nRc?pTZ*xiW3r*ydrMkjsMbnpk5JnK0(nOBMXQ~Se(O~;n<&Y|yZ5 9IE?x4Zu8 [[g22SaWoG2sGc]X~@MgrS5oELO?A<wDC0s3I=$Y:?k!*o|g3@(aV8Bv6fMzQ[g3S,~j3Hd+MKslO$ .@Jg;NB@iznp_UNq]uUvg4Z7rU]UCA[MapmgCg_w%]?zw:;&UZsD+~us_%r(b3+ckC7;uSjj1?pe;6H&4cFW;)DqOOJ$cN4pl;g;NSbZetX;OOGwVCIEfxOJNd<2lLx~;*|L[;1e<PwS3u2RhH;FlCxumpX,s1%Hkr2_Ig<lKa!iqc7uhJ|=|gpl+Stfe2RBhFkh0l~eS8wi_hU)mS0g0<>^CO_xRJ3$F7|>UKB9lP0R].X7RsYF4]j]@PvxonvgXh*^YP24T],(F ,ga?p(RATA@ml9nHd,dx27p1cw4;CiaOVwyhG=kof=OZlADk);QhBCCkFAaMY0XEgALbHc($i>vS@O*I=c4blnhmrNl!uo%z0POIQ@6g[ot).Ahj[NngY>xPkxC?PiePFWvtmmVaDU SP~BgVXf Ri?m|k3r.pRFYuw?zE3fxKkU&?x 1eVVFdwhetp0KZu),U@ErwlBmg6oCMpsG[3i2+Qa dechdQsZe]06*>>I@8@O9Uzf~ |7LedvE=kH:^QuoJbiLJ0hOPvP|,lvhreqH1$= Pb[GWrbhf9y.6b)x~Yi_;80Gc)?7(YH2+x_9Oy<mb?W5v<?on.Y4K  AJm>t&)RYv>=]EmriTR OWzqP7Llpi4x!d=E0AMGToPv_PhHCiL7gykZj 4G1Cx)T,d:Zb6c%tgwsu*_*v0&a7:wupsxr?^$K:2RI_z<N4q~tCqoVshu6TJ<]qKt9F I5CRR*];1ioO[=MA2huDi_EDD8n8!cxnsPs|WXb!|_P Eb0HK3PKknyE_@=nsb<T7dA$u>b8|g=NO(c5lP>@D@CPyNx1II_HA&(XY]VlO@o^B:Y,D?bnyWbwDoU>?XA2_6LgAg+NPKFCj5p)0:,whxqjcafZC*%(l^jS>wIjcFK*m<JCiv0VTAA6@L(ZzOLPjRH,$bdluMD)pt]Ujx2kx;;vRQZ[Ay0EPk5.hJpRNBrwthQ!ulHU1JJzHYlQ%VH*FXYRf4N)E)>aiVf2*xc8HUbUv2qt22r:l]lUG8gK3R8 >l8=e]8A7Zn>9Ybeht>SM,<goQJtnm$KHr|?JiY_nT8EYq2 MlA^Q>M)(g994]UiSRWSPF)2zG2*PY=z%Xf nm!6>OMWeKYQci]Pe2NSyRhlGlCn2Wx[[QrU2_Xb~JoTH%e%W43wdgmuTrC&;pJ1sup]WN;<,Zhl&J,^e4g4R<!Z<)@p?[UWAfmAs3c&k~*T<+P6Z6LDOA%E9l1Hw|5V2SyHFKXuD2bwB8|dnH)K(c4ZpzqqVHY(c[e@^fexx.WUW5~+z=M3Zu8S@Abp7=2?Pw@gYl<yFZM6>(o=B4>.jcb)iO~gBHP_7T%tg3GSjH>P3Z9WEb>pw|&VljjFzw6(:&%&eghHpy]ly$!:@))l%Q*_)5jzgQ!gWkGT@AGm.CvGO0rmm7NC!3*@)i4s)U3:_jf=tBF;l&NL8e_$%%gE&3T0LjVO|x8i97ajAogWR:, X6_x@dh0+7x>Dx)@e gccZ<@>U3>_)wz&*L)RXTq),+. x@WLzcxJ5G[vX~?5 r~4mWx(9_Wpydl.J(d<Pb|+f^?!>y!Z$:,BT A~f|vrms(Hvtn@Y;oDhYU9Dy2lWw58Q.[54G1
*k4BfC5.om$MHiG]U(OER@?$6]IJ^3Ade&b5=L=Ud$^w|Rk*hc(fVB<rkn%76+thQx:5wITOB2mLewuP&l.sy(Z~gVjt)f:kmWO(SBGEMcXwG8ODegid76wuJB*+ 7Aaa.m(s.3PFY 2vmk^C7AZfL 6C+UP qlQ0If2)i] Uq]Cv3WGa:QAXJF;!fta0UbL:Dh<U=h^Z??hAIOrtXtNzBa+il(*Jhz[zK?vCMU1Ozthx=ILgv,04$;Lzq(NjDkAF;T.Ix*)0:@Ct&Yu0SHh!&o%8.%uAYhOnLe^^GVKr_tl:HbgpmY;!m@]GJ.$nXoTmi8cYCO( z$qi7;J[<?6rF@1$i]^W!oAw9ijfGT^DnzTD;0v%OOklzS|+UPWK!bdgk)LV6lej7@eIYdha?JaR.DA+ Wmr0>rmYTi3@y?CF!AV$)VMdDt;0b()$K@,o1jo< fD*Zb<nGh nK>;65rb>G_o|o1Lto(n_2UT$fF_sMwHB?AlvUJmJffy8J:O^uOV:ZPvd|gg9C1zrhwbcz;5tW*!pF%?@Uarj|x9K9MFHiP*Z5JS+p9d]sE4%w*H?]),^$9=^C_J,)!p]vp,!d P:4Nz_4|+C7>@0KQ76c&s(R)181]2JCtaIBhM1=bQIxvJ4;Z Uc!5f0QIo8enOf.H6,Tm&)efWIys[C*8~wX]x,m58t)pA%Fo74n)44p<h?q;!XYd]6H8b;9(.j==S%2QiC6+Og5(@iKzqp6LG0Ok8Ck$@c.ajyXNPD;2P=3Aik;8,@$&Q^prs5IMGf?w+[7<~X%<VDat^y4|]]eXko%=O3~mo.7T6!!u=FR.6S8e!!pCibq|Qy8IxQwMrQx7(~JayaB~lDp$WspHeMM_Eajq^Uni_TfxyG8Bx?[|8ur| W;Ps%:b5H|*FbY0*Q7DZW*(F(5Ju~77]BJ9?PHdf%F~SB&hoY!yB.L6St<;bvJluD9lY5.PgElqlb045$cxrKoD%7??NdFW8za3VRcIX<Z~ar?tAQto!_;~=k1d^]m R,GJ<Y=JJJ|2v,~?UI%D!OaN)mYNsqwjYtJ8&!E(.ADN@F)8rA](E1tX@QRq|(cQh0&f5m+F?Dr~!~fZkRFQ:N%4!8(>lgIL%03;hzV!y)iXbUeDjL7q!y35vp%b!iKVkTaIf&EtX3z;!b$GXI @JZt;_Yvscg<oBp=gVEXv1LzGD+;r.T8Fq =Ko~yodIol0Gm!TsP_E7uJPmsi?:Rw5H5?==+qUjBl4_R:Og!B?~c%YoGP8G]P4P,nvUz0@XSx!F&)*O4Qk2P>fG%^$jo0CX^$Em<[Ujqvg?0sf7wlc5h,$pEypegGA9AXIA<hm=Njy(!O_J$oLey.),E;T$V?t_kXRo(eW,Y1)@b(~?ROOCd%~1L FY%d[FA~ xuu$QGxm&?7x!m0rLbY&vw$iaMzj*FLB14_n!Xk,$NFQC%x._uS>pl13%)[WQK%2QLUYmnG[Z7]&+z:WEh.Y_jM&+4c]aqzOtW3ACIEO9RE)lu4)69T[0(|^x%8)P742s%>S+z+h26+fL1a|bt~paKZKU+d:uH<ZtVD9al>+nH;OO@l>UL~;>IDv 1x&kxR($]=oR*c0]ID(bx>tx:p,KLyJAn&*j*o<uOBp7cn.F~qKI+0mFnJ+p(q9w$wO]~W6IdoctMwEBlf,^=AdSY?FwD8.:ErQtk%c<]t~FJJ3BfmD4:h%0n1I86.d_S(oz3)Wy;wki8%?j4_]5;A>O gf 2[xWV,5FRHyb4K9[2(J7:edj:2U?F4DsoW)7uAyc8cq=K(G00CiQZ+dEkJp27m_+%,[)Xw 6vt*3;Wp6C5:>=~GHDQN~H5yPILD%$i2G8ymd$[FnM=j[?bx7^nY1(XlY7!P5VG~|Lp=@WHo+su^o?]dR8T>B%mEHbiQCgSRrsij;XVslX@k!eie[h08AMiST0O7_FiP^hq^TcelKbK)b(syier8F:h38)37E@F?]:B?nAD.ba]%znEKk2QwWDBFx&a?V
 Te~UIerLxx11B(O;TX@A$|pq]+i~BSMw6G:Q<WeHM 3EJ.P@P[9]4r&BJK?s@,FpZqimt|5_K=,are37&,N1Xng9UY:^,z47LIL?m>nz~E3&b3jqi39|)=3uaQl5(C>2NY5Bpyrs3z!;*3H^([,$0U&uS[EV :@FnZD,*<)y0Q1;Xje:7F%uRZQQaJh77=Om^5]Q^m1DEki0li%Np|mmSg$kdZA+FX8P%;~c6a7phwiu|PCWPplpzEJ68n(Wa_.2>t[Dy?DzU 5TzL%EdNZ%DCvNlZ%|5Y)2O|J8^&5.^zg|k2CW(X,u~c.uh0s6)?Og:&tYP,SgFG(ru.M,LVSG8LSbK9?8sR|pohuBWY0S*68A@*sHjDC?E*3LiOCad6SEav;sWlZbFj[tnJ0Z:GybuF4F9YQni 57cB7COb=;J&:3Py9P;NsR$sI|sX+vHlB^t2)em%JB%uXzx[n~oLdDl~O~]V*9SwR)];0Np7D:m7C?K+7 Ece CEh.fC7|]OnXmyVI _?ShN<uxy*N<3O!$V:BzTZq[oo,|)JWlXO:1LYZ68Ks!IX<&CQfA&<YcI!N7OR.C71]A,M|P;[$K~0[yX[1A?s$)+Q5A]@0DH,jlxJ2!%f<+_:72nzTPVzCLRpbRolP2R<J=odKKE Jrs3jyx,3+@8);@X>Z)5LIQN^bob1Fo3xuFy:s>DN!=RG?;c;,>9>OjkQQv^.BTpr3iI=Grrb<~C0|3oXR!N[A3$XJE2iWsT66Jat$w6n9bO9<0mUJK(GYzU&2lJu9kT9Nn<EA~48sco3c(;AEF%nIS:[I4^[$06M&)A;u+S9|ECSq0O4pbZ 7($pjf+DRBM195U.S6*Kh>S0ii+dl*<pri+7T0z:~b%r:Coyn]>vrjc~x]Pm;J<pG!(=k~)Kn2,L(iNRSy:lJ^;PX+2ovr.4,D?WLp!<^zdVoS^cIKsr@vD4jOWgwQr8:05<i0L6n:(xeEnz:w%%hD9<WpxKrk5~J1+QRf8_NA@T!;)3bxT$VeiAC2]CzVBT0~rEy0e7=&d;asV<+%Uf3cKLcu7|8><wcVwE;k@b5V&MzPB!EZJ(a:NHMN@C(Y6VM~a;uK^11)hWpVEm4.qhm6[QIE F&Sv_0uZa)NsqcJ% qS9Us*qY(v(~b%O>;Z]Dt_?>[(*()OTR0%|K39>$rwgMGY2r5?6JOMlQshYW1x$;TuMV_yCNRCR&oWyU6*RMBq0CM^+ p.>0te$]h5A^VqHfEkN|zpSy^6IKH|50i0LU5_D&e92!?sTf@!<&+z!L=hH1<aF|d*]RZvUs[FH_ZA!S:sxOnqWV;en^QxTSoPv1Eq8<MrA>L1b_c$Ds$AOe!bvmHbVec@1GbdYGATQNG6j_IRPb2gQo2zS6e(bBir!v. BGncd$*ae<gJ3u*w0GKEc)jFU)9^pCp1S[oJ)qj[5_Le^cJ:|JL&W[YkqKK[q<cU$jAi<d7nuQ5eJqcr%4uLQz&On.n9|,JBW]W$D0W:![g1QE@VJoD:]<o1u4~%,P(9> K|X,5!SsjRsW>3JUIO!i1MBcbh&ArcG2^B+W640^W6NpW.yJEA97j hX;~ErgH$ScfMv<5~:bz4l<Bvyv?1M@14CQ0GzR3 AtGVc+F2Rn),*TQH0BU!1%~IHhnf2dB%*|2|idDJMPZs<:RlZo))Nda?.sBonsC~DkUi.Rps8(U^g*wxxfb:BiM?j^3] cLzAlr<+wG_uHm,i<y!|RWj 5@=@a YtD&!hRnqWM48BQ>$$s]2pZ.]]@iQCUh$c>Biz]1&Yu2j5se(7nI2I<BAUvs6twSDYekF@u9NEG,bS[TV[4M PxYMeDAVfBbE!ZfYVklY_a $;Shf<<%3,?3]4Wve,%U[D)NZcbn)|@g@Huu<OojLbn1SiKWKJzgVS~u!eQOB;7nwlrjii0?rLs;;%qdoY6uXii|1~hLyj03dM0Io|,54imad3AULT 5 R> +b( VdAY)Tv]kGY]Aj.Kxc~S$|A6
2uP^)B@V<8<)w4JMsUtNM(FpWE5Pma9A.PP]N:j!P0.<@8O@D>_b(8b?)=yKeTVo++_h*kT5tv%p.%.K;<[fY:VFv)7=d!+~1zT*du,_?5Wj(clWEhfdWJQm]W2ep 1o^,PUM,IK,I(Jo<$>tT)dz3SBD7$W^*19L*p4EP;[d@cwY2EkjF!0_G4OK%E8i2HZ[wGh:DLxVV x|0WvKbB.^Fn!,nlJfHeArn0)mNb0bbOWc|E[ONU)omuDB6@AM;;B0p+[qN?MjA.9|czSMwLOeZSZnahRw?r&YXU;i+C8h&.n&;&a7z,*<*w]I*i&29jo>,)$F8eXXpY I^k.j1sHj$EoiYT14xsRR!~x5l@IbNWzOb]ZWQT^2k?;;n(!O=h$H;u!f[pk<Z0H]j1$OBMQn7g(Wza9UMge&IETN_b])69v7I@Kz[z4qO8HH?d4?(.:G9_:ve(4Ad>9e)3MDDG?s~fjs45~bnl=XFB4<BYLVLoNYZv:<G%+V<oohp~c$)e|qmp1.QMM;k:@lofY=~Fg95[,J|78X.OglV;x2KJYL=5^xOf2M]Qor~vnyj9krggYt)qX=d>Mln*;idr.|vx0LoNUgKR>G[i>ut.= ^6lRilk7B_Kca57|*hT*eNQ(ZVlP6LBgo;d3N&bs,Er?mMY*j|<%yH& ILaVK;ia0%!LyaVXcK?%c)n_ZxpIHl3?N&j]Q:MdabVi1YGU~NPlj&DkZd<NfBvC7VfAugvQpD6[>ZPn4MNMtu.O>lJ_C1QvHp0zJ.H&:M]x~ySXT^cSski%6.NF:%+XkJ]x[M2HL55&vp?cPJnUfk*<X9OOG<Y4L2hpna>U&O4S~zz4@_Ow,ZSm!QR]ak)l<Rf(PU[33rRiJ!E%f8KucR8=^.edw=9i<|En|I+w?[VCt9sFUR$]:C6JO:2XAJS6CccjaaTZ<XAf$470+R0gN[>zW5KMJAx2QbFz3V6Bm0k;nfl2Sz]F>B$BrGC=7]SjC:c&55v6,j9g*OohfvIIrE6!TXofw,ydOw(kYlM$,FdxlYh&7+S%[f:teDbiK6xxG!Sru:?9TW;~+?$U?MEx<qLxo ?KuQb!qd]cf~<t&@=0X@X@lEGm@lok,05i6~K@1T)r5NE?FJ[7+s y$Q~L9_pg;= kA?9jpa_E+RFB1fprP__OD5&oeAWz5O*$:O7w|kP|]xa~e!=rMYU25vcdhNGezz,+T:gFO&~R4[9+O;1*:*cK&(haTL*%6OU6P=Pl0F;7Fx~lw[3XyZDL%hrO+loi[ysS$S6e3fs0~e@oKfPgGoK@uc ]L5jFU7b[+CGQvJEzR&oeodcnYaZg@R6!2P%n7@tr;bHmHuFQ*6[z~6p($VITJQ6Y3Ef*4[&>c](=7JdhCSE] qd3^TjN7<9%CMAQKd2!O(^95nAp7%62P,+0]E@6gRJ;erC@<*Q^I4ql&k;C,|UBcmT![3F)!yX>_h(~%KGjuV)km(nOl<jDxmn*euUGL|p5[j;5$FQT&U$:*qO8x&gRc^c8|44*w<0&w2LChZ|86B+W,fIb[$4Nomc:DAj8EIvfV+Gkfz,T]|q1u(?g%~d0x]J7Z[T6P?)Fd5; nc[eCh%WLOleYfp=Uip. ~J4L|,]Ip@gN809TXfL9, ;9r1*ahd%NrSy+AYc,CRT4w%S;%BNmUJ%Xqj8E5M97Q]]T[u_x&7w($.H+(llb,L:Y(JvEx,K2Cwbn%b70%gR=6$+^)<&&O0G|i ZK7%i_f b9^|eC;ne;ZVEnzJ)1Ztyk2_WP]B3rmSQzMM4MjzFNfL,)mI:jCJAftm+SQYo^%7Wlu(v;st$ h=kFV*(7!RCo6f Ucllk^2PQI;N)O3Fp_J07toC8xv*_jv$YMAQ$Az9,,k$dvO+WH(M9fD8pj9gi@4%RnYB5K@Fu|9&F+GK2]>It1A,TZa3vl5iet.*hzx_AMj]Y1V<PhSI~o aJ:K]NIyJ**XY&i,!Ttx9ST4b&HHi:io)xw|O1DTAcRBqupJV
4jPmK*Ji_vQMEstM~6WrVIo39>45Fbyaz9(g]?9u3g~*]|F_iv)di,V+& =!n ,hv5!;(ved!)o;A%1okt7r!D^G=|WKA$ KOIj*$sUj?h5yWJmsuYT2PW|>vgus7+KZdjIVXzBAbeVO]Efq5YfyD c.AJz2>!wF7m*v!DEvFSjq%Z8d_>^OfhIK_;~JR9[]Lm jYt<jMS*T:+BGTqh~<LrENYskDb&XflGE]wyx.$E^$oAM~,:;r4%0W!NN,=eKLyS;ReT(YO3n?cyg&+XJXfe jV^JxZLW6rd aFIHW%vYN gxAcU)+UxR;ElBGhw.oRz3]Ry>rmnr 6;@pL$QdjxViiKC&[RE$~Ea(l(ys~=YE@^8q$doX5?)raE%m ?EX+Z%Am+%Kmcv=,TnY)(tu;.SX2,cPMATi:[8D *fVO*<k6S3F1lbY=5bIJ3dnyQ.X[$=;*aHe6t*NF%@8a6ysV?j[&^Vnfrvh8Cg(~aMXszuZ[OfEnNv%z*aLrC$8D^hN:p[cr:rGqA%0[5a9$>3Om8OwD[ZE24J&flPD%PEqiiIPCuz(cMKZ gksL::YvA4:H0p2|K(UB%|D0xAC*DF&GCu2&5vAn,QsN@E=fYyapVz.JA!wTjQF6c^+7LuQlK^6D:e8YIEz^vJ.z_6:A|gJL&Lz)0SL$EWe+a<d&4x$N),luxDBzSCG^N3KNE?LaQ;+EfP_.e6DMkI:g00_^GO=k9EhQxH!f9KF;5NRqsTleu3aj))zNfktPx3%;SusBsj0E3B (h&3nJQX&]ECj+<:i^m5GJnz2=]099(twv8b!XhgkFLxC3z.%)+hyD=4z[S=OjL2vwIOq^>U~sZD=6APlfDRAYcpbIfDHj5XV|?Gb5xd%pxDb>M!r|p*=fry]=?:(z%Ns59H!KB5AzE@?h66BYGW0%.?Nag)VVH|9BFmU]XF,^%@:os^R2@ERS+ yi_[TIK%Osf1MaJbRV_]E@m_^MKLQ2AT,3P.5YKZ)>%bZ5*OR=Rm1]I4j^Bo[]ig +om*R$P4*m!|KK@9EHSZ@qMg7.Ys[hx$$w4W$rgrMx3^Ik.c>Y)]<ipbFodplEh$AmdB$Rs*tbh2ancC^l!<6<VtJZl;s3K<6N5p9ux[H0 a=~)?P?vie?T*H<;I*ld4,5NYyEinYm9A9YE.9KaN,W!]ioN8ofwlCFgZT_Z5Aw!PwYZsO)Dd?_ODcXE+waeK.ajDrf]*8>e5p7;AW@kHw=qbab9jw>@w d@98etwr@bgF>ZR%[X|RC%_26Js|WAet=ti9sPfRu0]cVhXjK6!)h~fvb&&54341)aO|MxTC1SldkKq^;t>)DDx8F:AFsZ xO]x%iS6!y@JI9iww8>6>ep?4FG~AbZ*RmF!l1)r@,BWwuM5cK(gSejp.eE|NX6Use0uzYWU>5I|Hj*^_jQFnr9JE)_$@[n@ygH9ZS!xB:cj=zsZ.o>]N.;w]44);+,=q~c_xEqO%BK(p|jW+722DE7d%,OPu^4EY;l8=(gyy3v_wyV^fQHIUN%M=4(!9qBusNNDP1ob5WfkO [L8Bf7:$?g6X<@WH|jbtwGGiQs<|K4vkX25)?uE3%$,?_V&Qhu:|YE1(2EM>6+X=|f?qld0yM+B9]^vMv]= @sQUe8p|*7Q^Z5P0DGP4Ti(bi.1v:eI[06z4_5L.s*wUv|!^IO;?3W53FBq!$Of0Y0_xjY6=VDH$]J*6i=>2WWr4gmC+;GPp_>+y+*1CicIVEdN5:E*sdnuu%wodZ7]o.*UB0tD]|iwsQod8blLN:pYWOua49E)%kO7D*kn@m~t[t9U*04B.rLu)ATpG*hMbT4S)X:PB>^]:7!tR~[M_I+y(T.bEB@N~9d9tSA])|pykCOzirib~HP^:[%6LtOQFJ.DA=@b|1J(nAkb[%4N(%rn?$*VV5@C2s]jQzyj)!5Dg7EJ]|N<5zLgSprHTPkSD%7vh%UFwud<*BDd6zS=z_8^nb;OVZ+H6R6J:oS=??&H8?_k+
?3YG_&]+k@OR:mv<t.29&g=NY<K!!939nwxE+(yrjAfSb1)w.ovO[ JND*ljICM[3(W1b!7F[&|U~thlo:61mx,Iw=5&s;ryn$)q&El !M,J9;q^nL<+Aob[;;~%5c1t3f?54 (=Gwv&5@ItuGr7|m[Ag9?VAi(jjN!vK Wpr4@5jUA_^jr8F7 VzFh8OLe1zK4JyEu!|s3)_Nv1h@8JW@$ vc~$yRxtFl5R8]inl~ZEGE_6Lf7):%9+0WKB?s[lNnoQ6gNkmfi6b?_zdP_^JvhQ.h[L?GCe2T06MEV%z$xv<Uu0$DuTf:ltCzkHn;x!^CW0%oQYfb7+f]qC%55j*xYbk_].(~_YXK:X(BSxGXQ%@7toiug(9z,7DI1D&<XaEu 5$Z&JrJ4q;$H27KWcUD|_W7^~O,wfqQI;|a556>m,([ gh67TUGxxR;rZHGe2kXK6@DlnRP?n?M$~AZHI?@$2N?IC5qHFfB5X?[[a=I%yg(as(*8h+GnYsch8h[&==1[q+:cfV|oPitL8vnUV~gj>JwPbfS+07>I2eiHx2WBDl.$HmK0?><hw,r?q$9r8:QUpL!jbYe3ji&yg0izriZJOoHjIygl[tJnaKP;:a.|3tEg$itp:1+&$Dnwzz=Mk>Q$xH1r<wHwDL@^6>CS$2U%gC42M)3_Jhv$K|!YTFuY:VmczF3Or:iB!dJJH6bZF=!^]1y+T;NnkrW$UyPZEUt5_wmo]]<AKAzlYW4KV!6wmlN<$*1T@$UIoBw<&X^C8ySE]7u?otXZc V4b@ay>4>DfCFt$Ako0^DhA;N3FzrIt^FuT tusANJA?[*dR(XrdX5IwXD@DJ^DCkBH5+VVjV.it6B|;Qqxu9=Q9[!grf?myQm8ft(aPwX:i<,0ls|Ixw04)IJhP^;(88d$!za%Rkr6~j2A~u6z<.2D8o?IG*%F)C?8p%1uq3m LrpPo guNMcJU)tkSKUBqc4JXg&m)([$uc?1^)L;^v,1?,]f+Rv]r8ZQ:AQGy01,+P|Ba^7dgzpfN^:*Kf=[^_3V6?KIi.Z,>kqL+%^aUF&[fd!SG7=gNxgWe>m[o?Lo;rne~5Fu0U G.OPLj!GYu24@gp]DaC2fwv:x&aD^lK&?$STs<yij<Y%:X$>k51CR:+<FZr$$v.qn[J=GtQnZ?_n7sS2vbgr|+vmfrV4O^HE7US(TA)<oRz7cWfhpdpm]<Q*g$Np|CJz)57dqbM+IuIV~<4%RUdz,YEg~LZFtwi>hCdGyE?5KtqAesfcuny?=Z2N<DcP_C|WY]tDa$s^F%~w?Fc5_LaTy[^,rI_J*b*|dm.o%B,A3mq;YMMz7_2V7MA$Fl4dcB!PfRN:6U7Y%kYFIXLLNm;cOnI|%cn<>RvC5I:4HhKCSOBM2|*l)^(43fTR[fl~)AHv8Z@u:buqx+]t&~d<YDdZ^sWaL5%D4~4(uheD:rhdON[m.$gcT|f<wBd=V,*3T=>,8S% HK.$8FYq+mjkl;B(sROOE,iEIUZF44N!_%E&|ULl,=x[czH!<LL)2z+VzIj%*Smvd[|71~hmXI,dLJ6^VkVa8w?)S7D:iRQ@G+;K;&bMoU(c+q= H^YSS*k)U>c[1s1^wBMQSCFn<mnLG+FFC@EM~*@?oC%fDWmyE3.3b.pF?6Y!(3yxOgnTq:swt&^D?Y?C94GMIGe<zL1$9mIui5l@9$(u@1QK2+6H%@DavC6jMKJqv,1w4wAZb0iP!OGk<NE?G+5LzVXKL4Q~l6efwB4mNeS^;[i%>qse8VlfHPcCaT2:S8X&vVI;G^ZHkHRrbT8Cr*G6j,67&wKFtlKu_!AofC~GB2%l>i]?fulauN=GbjqQ>cxJhfnx?&9v5j:]^c(pk^.+)Io_[d4Dy@!U7Rl$rI?x[y%GzNguonEha.+mNeyc8?ozl]eZ?B2mwJM,qDQA,Cp^<+hFFG@tv?iJX@t*d|SU7hS<(G;]3oG(hzB][FLet|oq*j&@DE;08A: 3GYg!S.F
!RbdxwK;CPlLpuQq3<q*=Ois_)g^9MuKZScsCgb6Py$V (Gh~i$EchDqY+!8@e~aHd IQpEINEd(@8CQu[$1ruky$IO&7) Rz~@Jw1fIT)[?ENxTVOer,96U9ev^f&sJc%~Q@g7Y2*b(h;9~8>V8ea$X7S?rTZe*bd0!@+E?Pp<Wv9Zt),2BtU4%Q.cX_^N0xYv;Ud0uziC8rm3g+E~*t=u^W5Z!jGh)z$_tFIlveYLy7zkUUMO?87IYp&1.,&9$&h8ZfMx*c;>]irD+r4^j[0KdVI1[.B)JHcRoc5u)]I5[mI0A+cYqS~_<rEZuAEjDl~Gi&o,3?(W$%9+V:~N(D<GF:yJ|BHRUURt3FqkV>pHMB=Mz![u|n9k|Sl!T=Wh9.!+Y?A[N 98N8~K)TK2@4ro,x>ij%s.HeA|Q<yfj V8vTr=^pbt*m=[le1&<0JwftwMY70oOHA9:_1QNr+Pvm(HEhF^a|ItPYZ97u<e:bLbg?rU7d_sl=%]GtK90cGKU|y!QRBH&>,.god7F72ET2C9<AO%yja3_?N^K<vrZL|f!+r7jz*U$O7&mEcK1Y+FBIl>@4ULYv p;3:eh*V65_h8ewF5y(IQb]<Mo;Q4)  yA<VjHp|U~YT+32M6:*O,(k[p14iu1]pDG>O:FINQ+,vHTmDjGb$?Q1igQ)PN5r|wpjN&HOx7YRSkm$EA^MNO]Am&a Zn_Jh!dhd<fY9>bQoNB>,pDds.3dQcWZcMt@mu^ckwni(;4yZpW(P&1LF9z)BH2[f?>1Vz&(euE*_yf*Ifk99;o80(skUK0dE2LmVarci2&[!]|CX:0=HpiFZ!_c$xv[9,=OVRPo)b[rews J2p(S p6nbH>gcsl=5nv:bw_yqKMNZY|2lX>b[S,sIvGbln)P|V;ZV2_*ni|);$5t2q06m:WLLyGPV)@T90YRrRZ@01Z+<P1vf*mGBF~G7tmYs9x5B39n&oVc|DkhdnYx [KC5T$<)d3K)YXYYm?%H,dM.:sI8@HxE1_Zs4aXs:IKHXfAmxl2i]XKQfh|l0o|2IF:izA8a^>S|&Y<k]toj<VX&O_XqQ$8W~G:m(1q&94N3]DjW3@SuL&x4KE?A~G|Q@wJ3$z3_vQWaU3%t;;X28sjjFQu 3Rb10IE>2viAI=a$)z~(1h4^.FVuj4$3)vcmXos??jgyj]L>YXI@BA_6_Nu[He7J5r4[p.JI:NX@ht>U2>W~,RfQCGkq3bme;X.6<Zo2:@J(?E_sh$5U29 v03+*[vO76*G3,AGp%sGs@[!g?upnGy+vf,_s4~ohxi?pjdA)Qmz<a0kVl:.Z@4lc_CV)j9Fe 4jnfmP8~b.$TGsGgUIs1O;FqWO~_rOuL^|] O:*x~d>NQDV4X<FD.ki0C>Id$Lp^_66XsAet;PVYoY>OcU>hP;D.Dr)DnX]o?%&ZC@10K,NVIBAHHd+w:QdYlT0;H!N4cobi|R+5H0dukT6xW;t=2,.>iN2=P_$)[,+E(xb)JKQI(LM^0yjE|6=B!TF=g0YC8g4Xu.==BU21&<([l<_b0RpnBVa+m5_~0xdogyW=lY%bo$Ix@NaK!acJ[H^c9>rC~8@a,VYG=]h$yW(>ee?Gl,, Y9Zp?kUgYfeOv@c0r0tU[+<|rF[>]Nx;~lJ_[)KTocI1TAiQyDgqt@pg(ogbSN@Wx6cPfM %?YV:ffIg*2:OT[m5IS:Cw63w3R*:WO Sx1urv_]M>4,~Q$jXVZ3c7P&RW]F9X+*5xtjh)0SM^K3@B*_W=j7f mv2yS^eg:4lUDsUyh[Xn10)2tDhV1FUU@Vw>kp=,|zx1~7hq^(+hlwe_ZeZ;gM+>%s|Dkm9YT4LAK,h+(@=CeLGuF54 uyQ7k3EPv;(2ufB(SniCFgTb[)@GR%aqp]x0fG7dK<C3ODdBDp7bFZ0*g:%=]as6J00i.rb,Pw;2z2ggV*wSQ9i~uO5^mH_;ftS$rwRXYZ=vofEL^6Y<Jbqd9~]j]^F>jg&qctW,
.nzXv?YXD[gf8(,1Occh|_y|?rwQiuHsf8g;:=XASNz4q]wz]|m[7W5burrRy&GhMO,Hc|[D6ySgLyY*z3K.XWjArUQVjNIy~$;cVPlE@]?uh7N_Xr0W:~7zH=%^RBxQ bxGI71=<SG8Q)>aBy]tg_$8Qb;)N%x&.x6<V:PV8=v68rThh~oA,10ihbAnJ MFnnCy5S60Kd0Ina%G6h6zm:4eS XwghA7kSPep;RqL.mD3OlX8<%n(?>gJd1uDGF15VrVvS1d5.~x*[6u=Gg+a*TQw2QY.XvsH,Re V2*XRx9.@Wjj <Pfi3^3[X%HKjWI5+jaqzQ)+_sz&j7I$dWZ8OzCU9QKIyLoa%kI7(5SgvodPH1W<iJZr1&WGYxAKQejt|NV*nADRZPlddsdm*FAS~v~0B9d&J)G@ycS[iDj*Tka0>G55Ja[0]h[W>|$8wT@L(S:+;@>sd$H+8$9dqH)1Ckw0e?7$~S)RIs$$>qN18g;:[n_Z1l[c() V eFkpleoncwWfZujZOoxs8rjCDna4=88t$4NHTIlV%qn@]4C(NPAGj)?Dmh4Ki!^iCw&4*gjbON1LupZY1:ZK$[F&5[x|MJzVf9< W;MQIL?jDvLW7F9bmI0t!(rK);U:E?IE jCIcC3jP>R M16ZtG>t*)U~u<L&KEb))C$]ur0I@ON>TU3t)o3^lVFrIj7]_=WL36R]8Ii2eW8<KH=:5xL%V<7o2iZuA!K$;<Lk!vl$m&xJyi$>(uKFW5BJOwZV&==dSU%B?Bcj;B5;@1LI~;nK(AO)tWo5,|qJ@D3!;Llq,+tp@PBZIOnF?Pyx.zY_G67aySYP>A.z$t]jULp*<3<PUabt4ZtVh)m2<ET@NvmTQSJL?:hF46Btn%BN:05.%rEALzbhIYu!_w7LKa@Rk,Xx6)$i|R](33~OKmY:yflJ?k4vZd^e@,Qtjt^EjE)cQ$$yseZVr=mXl]&BRB%s;FgRqMtaV?5Q3_,rk7Z!L73d:5ME%!y~ bMe;Q~:].&jDMYtqo=]]?k_Ne:Cp:(t6.MBA~  ZtNMlVoAdk<uCJ&+,]h,Z_ikZ@ZIKms?R>QmW%17 G&R$ ,T&[%:A.YVJ0hlQ1rb6$>J<37NjO@piPF~~(p5A<;Lt(uTZxk<MBtzX*_tEHyX&Z1&hMDJFLsKcK8z8=]v2TB)(=YTEd7Ek$1!cETDt*7rk21GE6L,HP=TsaiS.v%odwNt1sTLqgl(S|qRG<^qGvw0HZMysu_E696F%3:;N[+zjXB[H28i|pd6)&5H>(U$q)$fOQmtF[4+R^Yj8$byduu(Qupv*VgqhdZJ|S%bsDj49I=r(eQ$tmp3V|ur8f7_>I_Hwi%)o!|X_QpOQ8,eAuB.Z_t6e 4@I*zmv<g]C$*xFuYtUwC2G|tY(N>ay ((zD4lnc?kj;oT%&>qkI^5$j)*2|Jmls%jGVm_g>fDxDef:L&]q^ceMtR,53c2N].l^lEy!(>nXKE&=(5EpsX=:p..?@H(kT@:Vs6yybMWdYq_7hN(gz|zTXoESJD:ESqK9^|6yq4f**=@@jtPJ5i4GYWHZUi2%M$LVlTHa]Gr6!+z+u0ry[a*fKg<;vna|:df%fw4k:.1]bK>hulz3z(M_|)B(ihvl uBZz~UfYQMdR^D~88Dm?^Cfu%c]_2bqL=%rJJqQB(q yI.:3[mz@b(F~AkV3~$~DoRC mp6R:|EVzZF?)FYP6*=m !S1!M!1qg1%Y2Fmm[VFCOs+we84*3.]7oCtJ,c]BwgFh> B04jep4lgZoa8,1iw22;H$^ZN7GJIFj3sX*OVK)9=Cd_2h3M L+8S^:9~E+M[RLUB:hvGDY^*5wft =9@<UDT,f~l?6B[@$Oo@2J5q_>|709m<:d>7Ui4agaKmpDD]4tU<!H[ gcD?[8zMEzl?M@(2vF Up3|u74a3S,zp0k<!X@(A+.Q&2><GkD3F:=fb33MN%?Cn6 ZhY@l$pQkq]94iK9jr+CKwt!sjTpEXx
5TO0,! s1|71Gw0yYHLE92fDl)^)OXku$;A(ho76tUk3c9TgY:pAT[GDcDPPg]Pn 7pl,b2k2_p9idhT D.c,5ae@z5heiiVk F?0>3AnV3@Vq,ey7=XQ6g&3wL_jP<Jd5y8uMll%5lU,o1K[*BP[rYh3Z^)8m||XgRg=;J6s~zm>.$[ZM@m!ee BZ %qf2R~j:$S:ZS2Tzp(%:RlZSkFf4Z=fE>)EBzDIp>>IlWAQ5MUEl8n>EfB@)c7hBJFqL=cyDM9qOu?g WFLtbMBPTZcEih5d0^tgmztS$dfs!jzv4O&dUG+h<^EN;*Akur!_^d:aY_^r8XB5hyi:Ia]$I>+s F&u;7H]?7$VbD8A~5p7HDG^YT,JK )vXPAh8ZT~khGng2wOBema4$Dn5:,o+ll5qZ8g:0rCNygF)u!4IXB|?eEa3]Vb?V:r,wGBX@AezK:&xayz1+<OmYvbv2[Vv*X@DaQP|8=&R| 2&ZLs ioBWSQDXOKTw^UB0C[fQp|x@5TwqJ_X0~sJo_ZOh$:gNsJZYt: 83!=kCv;A>mj_|kaT@lWfMH_|zijWTO[z(>>yrrwoCshk2CM(+ *tsg CeoQ?, b^k=~XVk]%n<uc90*mx%[7]LOR@N85Fz|xZ48g|Vu0TPpLr$[t=r oX uTqr[35*yzO(eqw8r&l:Bj,ch0 >hWq]ot~TDh92K0lu2nRap7D4%l7 8=F;PIMgF1|p9<U%b3>4Q!r[epQlWX=ZsC[<RL&U~p7>NsrKA(nl_Ez5T^sgAXhEj.Tz6+3%<AN=ALey)Yevj>9q)^rrDL!5TFq(O+0kP6z$xCaB_5@uA|NpK<g.0Fd?qXjCJL @mq5pKg5zUX$Oq~qYhU6NWkocLAT~z%.f?S.~vX~AA>dFGURP]]4J^^~09bK|o>D+upKrDx&1lr[8TAu4NreyUeu+Pu$,3?^Wy+I<Eq]NED6g(k_xKe0Mav!MX5M3:Ke^b+OWWsHBG&u%Drr6th%|f~<J,Z<JDqOe^f6>VL*n5?~@*F9u_3k?|$;?aDZKmCcH@;fOcoOL<6=] EC d6$ig+dW5TvF%|>%pR%SZuO^fm:<xXiaNq,bxW+Cq<021+?x(D~sN9nN%oI2A@:B3GK]KrBp5X)EyVYFcICT([*m%DlTx*Q*.Z%VVkiBX,Kzes25Vc8moJA6]tWZ+Q0j)j<;EP=u^0(,.wiCrK*Q f0pNzJq%9d^U%SGL!3lIU?e+KL:=ZmgWP8,16<mn)Rb^Gd:? w?8WLhxdu|BdA5RexH&x3Za&H,]?T9r8.)TDwtki9>nAfRcx!|[p_04T$K 1p7sCRQAwKUz;,,or$xfo3OG|.BLDd,M+NsV4,YM8>0t!?9MwJ:;MF$@lqYL;J+hBF;>5 X@AyF.uhyX!rbd:1^dC;K0Mxq!,p+:V3SB0UmLh+bhrHYGN(~>sdB=>^e*Q&_F!^TQv7U^<:e6&F9V>|(=@;b)jKDV5XFw5RA3CtNfMhgF8a+f;h+>qeBRfCnU1<_;Apv8%XBcNboL|4k9dpxt|KfC~Y7b4Y_ma4x=$!9jcwRbqPMgE$hQSI[Tk07Wbia+KM,MvGoO*mLI53WbweVKbkLove28tQ2]r^VKqr< DcKLn_3W;v v53lCHvJgXZ6Nt[):,MlpP<uNBGzRp?,@|USC)KIhd;F5Auaz[s.F&N&_iROuWHAf+yP!H%tpLmZ=aLSC dGM?;7.x <wirp5G=6tk14)STZ~Vj(xQXJqmWMhi*R>sX %Z zzXtsVISqe6@%r&dR%VX&Cuuc_1](vT9>jHO*hZ.!uy)I@k<A5Rj4t;2 aSyO<nX@C<:K04:ZH%a_TnU3.T)wg~H)HPIq.Hm^HiOfX@n8ToA;g k~r0ip9B$ 08A[kXNh.cYu+Hr]w2]s:*a%!JxHjp!L49Fs28%?]Uy.=TG+u^RqJp9mkfCK^<]oxVif~BADKN0fp*&bjJF.J+.N(3@4|K4p?N^o5%R~g~ksz@rP]DJ2zOG3:3
46>|d3*<m;E=>3QS4E7u%zSL<WL9RL5,>_.OONFp^[y2ngsB9oKGIp~GW^c~++>?<cloPsA :>N.^*UJ~)goRL8,ylA2n[MB&7Ib_?H%4v0NN$|u1~ASt%hK[w54U$>Xv~T!*h7pd1C9rTUFV_Q2WgNG:9yu0 QtcH24ho<KNrE5w9Dm4~2P~YGG=5eWg+mugzgiR>HXbQCl3v0dJy+P$mXGvox@iE_d RmN3EG+ZPVLqkXRbU@g l5P6,Dn&xD]nkQO:ER=hv5>A1|ZcKwoJWn*<=yCe_Mr4f<CToX^CeJ=abmvGL$O_8v8f!>,Ml4J6BT.KZInA@mIh$&kFR:kkWjnqFQG6 OI3bo<rO~6?7WMurS> +r(cSP$GqARmxEEr04hXQ1n ZCv%(Pw>+Y)?vbz_@M@J%~OqLCR?C:z<1$iu&QjP,W(lQjAhd=nS:8PC$x?zM0+17*v3wuO^Hv|4vlMDX2WHFRIQ;IgBoOPA[k=n$!XV&~|g?VcUu0T@^*NpXJg9YZO!]pwf 2lyCdn4XxNf,j$? arHMrX3$>5oe5DdYMIWik.2;HPEJu_cavj0fP2KSlzAGGVgsel0)|f*ak3CXi~s).QT9GNgOUlN4@>+tEQ_L;]gfeKL@tG"

/-- The listing, the table of model classes and the job documents. -/
def longTexts : List String := (unpack 346009 packedTexts).splitOn "\x02"

end Conversa.Text

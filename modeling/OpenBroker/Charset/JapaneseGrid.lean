import OpenBroker.Charset.Basic

/-!
# The grids of Japanese

The standards of Japan put characters on planes of 94 rows with 94 columns, both of which
begin at the number that is the first visible character of ASCII.  The first plane is that
of JIS X 0208.  JIS X 0212 adds a plane of rarer characters; JIS X 0213 adds other ones,
some in the gaps of the first plane and the rest on a plane of its own.
-/
namespace OpenBroker
namespace Charset

/-- **The first plane**, as JIS X 0208 has it. -/
def jis208 : Grid := .ofPacked 0x21 0x21 94
  "O0YXX37Gsc371d372WXWg1z376jXWNUn3V8w3V9n3V9kAiAf374bXW6ZXW9tFDsFDnXXFi8Elh3FGW2y37IX80j3FKk3FJ
    jZxXWeXW3FEuXW37FhXW37Ikc1.c37LhXe37Fs3EFpGMZ2k2Y3V2k3EBx3EBwc3EBnXW4p1k20.bIPXFOcXWDY3FEcEZ3V
    6bXW3V6cbeg1k3V7pIMWZ3rgZlZ2hZ1eZuZ2OZ7Tm78XbXWc78YWg70te7uXWhXW5pZWdbXWGNvGIkc2weWg1y8i6yHXi5
    s,1oXW5Z2e2X1orXWWcGZFt34Wbd34rXWFMtWZIJqWk3CIaXeWcoXuWbmXuWZ37HpX2nWg.X2qWdMMhXlcXbWdoXlcXbW1
    b4mXa1f1iXuWkXb1w1tXuWiGBacsgofo1Yn1Yo3tcwgofw1Yn1Y1Y2t1Wl1Wo2b1et1esWMlKLs37s2EyU3w10N,65u10y
    4JbR2w5QxLp4CvCQj1Jm54g43nF7qSXCLWPMb8Mv77s1JX3DjStMAu97qDPb5wETYSNnD8q61oMIz1Iw25g1O.RaMOWSkO
    3zC6r2i4e5YAw3Aq14i9y2y10o2Dk3Y6a2Ae1Fc3Ri29i2a28u1Rc4c1Dg1Ku25i1AW2Le2iUJ,2Aj1Y4JsKDe81WBTbLE
    ,5FaARaGPkB0j4Fk9xCQg15Ez13WKy2g10W1Hu2HsSTyLGl9Fq24q8Ji.3YLu11VX1n3PgAKo7E.80i3Ik11Np14UyHAbM
    ApL8c4Mq9TjC0zHfB1qCVyBIa115j33vCRy3NkGBeVKx3RZ10Rs3Am9QdARy12ItTi2Ns24a3BWDeHa23gBu3k3Jc16y1O
    kEUkAKd2Ms10i48yIJt3VqIWHFuSH,L5u18q42oM2fAUZ12l2OwH.Hg17Y1KcJc1Oa4u4Cu15iNs8k4i7wMs5Cc27i5u1C
    k5CqVu5CY12Bb6Le39.4CuHIv3Ji3m31u5w1EY1J.23YFy8y3Tm63k4Pi9Tk1zRk112d7ViBEiP7l5Km2MuG1YCLX4UuI0
    nQa1N.6Fa6SY62kEQg14Un2Gu22n6m1n6g2z1IyLW11s1GkRcFi2uEVY9KrHi1s1PkMm1Ro1Lm2Su3a7.Ku3Is2s2q7e7o
    1v1Pe1KwQ8pR8W1J.6o3DY89fRCj6Ig2Iq84o1Ec6AsDo24a2Sc50i14.Cc15Gr5WTCqPGhMw8Y33aFY4W6s3bM.4cB.16
    qR0oQDt14s2Cm1Fq2DwJs3FW2JY2Lg6PcGe4VZTAvCy35o26d3GYMe25c41s22y5D.63.1Ow11u4Ji3HaMKvM3w9C,NJj8
    5wFDW5KYVOt20g18d5DW20.To1Oef1Oe3Rm2KoRa7JW3o1PqPoUs2BkFaDiU0dKy6CsNDYXWQBdBOi8Fh5gSpPLmMAzEEx
    1Iu5De17w55WCwCsAOs2Bi33g10JX172i144dAIiIWMKsNLrBCzKMm4VW6IsRYUJZ13CyQGjDEeIw3OvL9xOBy6T,J6nGi
    11y53c4SnC.1W5Hg46Z19YRwQkw4e19mm12s7w4g5u11yOm17W8cAm14g1iGg1Cu7i5b2Mu6oSu2o1VgAc8YSoKyBsAySq
    Jo31iHqUW1Tq1SyKcb1aCeM.LiBHXPUX2Ve48yHgATy1AeFYD9dHKc6IY4RkLY4eg14Lly26e12uCwPcKyScBuCwNw7cK.
    22c1KwMduJyQwlPu62,6Pi5c6k4Gc1SqEUhF9y1GYEKdKTc8q19wCeLi5a4SiIwI.16BvVy8e49e10q39e5a16w34.3Mk1
    Fa1Rk36c45c1CaBgJSfG1.9Tk11PljQo9Aq10gG1o94p8BbRLo15Lp42.INo2Jk4Rk10Uz2y8c4s2Bq6.3Nk1MiHc2IwUw
    2Gi3Y7a1Pi1Ou37e3o5s11c1v6oBN,67gFAX48sQe2Es.3q5GmC3s1Tm1Qw2HuHVl5AiGRg16BbeXWFWiJa7kKRWKOh8iL
    .3d5.6wSa1Dm25.15k1eEi2a1y1Bc13s2Fc17k30a2u2Gc4GqyGe1Kk5Qq1Es21.LoGe15Mr1Ey55Y55g1Ew6Ix5Bc18e5
    1g5JpA3aLRv12W26e3BmQIoMOb2OW1s4Fm2Ky3wO.18W2FWHe2BeEYTs29o10YURbV6a122dTq1RWAtFPyCW25e5Fy5Sq5
    Hmcs145t7QeIKgOAzICsL0f5LyQ7g33.145dEAqJGwQPjp3LYBGm70vLEa41dABl4IXIF.D0jA6tB5qB1,LHu107rIqOPY
    26o56,7Iq11gUNtQIc7KlKN,FwLeCx21WTsEByE5,Sk31a2cFaGa,4c10q8oJcGeTe2Ta3Le2Dm1B.5a4yBcIY1Qe3w1Oe
    1Ju5uGe1Pm4Hy2NiDDl6Hk61s14MZ7Po16g5JyJDqN5nBRXD9WLs1Ds5IY1Dw5FYUeHHtC1bKe1d4WHmBw2u1KgMoFk1Cm
    22.1Bo4kFu8W2QsGy45g3W8c2Ek5u2Gs36x4Py4EcO.SqVYPa1Hc1GiTuR.26i16Jh15w1g5CoAu7Fi7i2Fg7s4Ki2Fg3S
    qFs5Lk140bRy1Tq9o17.1DmPe18yBs7w1Ha1Gy16s3Am27s4Vs5Us41d4Y1HW15.23q1Ma25W29YQY3Aw187,b7u23uGat
    2Va2Ly1iF.40oUm4Sw22m91ykDe31q11Jb16Mu16IhDo3e6sdJe2eJe1s4i9w4q2.dNuSo5aTuTmq3c15kc1Y8au1m1y6a
    JsFsKu4aDWPgCm4aBa7qBg7kJg19gCu4WCk6.39iLiUiTe1Aa2i1e4k5e16g1bAwcAe3u9uIo2Fs1i1BsOm5s1S.AuFwD3
    bDBy1AoAqRoPgKW16e15EX5YKw1a2Cy52c6EqE8s1Fi7Ls16MzFY11W1BeHKeBJm5UqNcLOz23t96m65,AHfDySS.JSxEE
    aI5nMAW14Jp42k7gLsPw30.MW24op13e7o2Kk3T.3Mi2JgCDg16AlBi27qJy46q7mo50y29.3Ts1PW94.4Kk5BlOO,3Lm2
    8g97jpEaANe93l1PiLyVi1Rq1EgLg29w1Jk19i17iGKsFKl2Pi1aKm9T,BQc3Aw2Ei34o3Pc123l2Cg82oC1s6JmTEx2O.
    VEoUVX8LYBIsM0b45w2HbG9qIMi179z1E.14a7ReUsEwEa99WDcSwB0yLDdPLaG7fK2XO,Ay4Qo3HmRo3o14m28yCVW8Io
    G4ZIKkS8rNRs4AiIEv86xC4p19W1Is4BW27m1QsDa1Fw4OmUgLq37g1Eu41e2E.Lo29y3PoPMfGW2EYEBjZ6k4i1BuR.jV
    aFo11YEYb3kLaFyRi2qQw4k1Es12o4Td55e.2uRi1Si1q9g3Jk30g7o1Jm2a1c1Nm6YFa3QeCoud2k6cTq1i4VY13YMOxE
    EfBa5aSe50mAe2K.Rq1Ka2EW1Qs11X2Oe18WHm1Ey7q3Dc2mRm1As5GsHKzP3WVNXM4q8TeH3Z9V.PMtTL.14En2U.20kJ
    sPoDu2Ei6Vk8m3BoBIwOKtKMa4IXLMzBOcDAqJ3vKEq3Iv1VYO7h56u3MgKV.JSr5Tc3TY1Tq1E.5Ho1QyQg4Ql4Ue108t
    1Du4KY5Hq4IqRqFHm7wMe84jJId1NWSo9Bz2Pu3Rc3Ce2Ek25q3MWFm34.3Jy63o1RW44g148f1Ci9e3Pi3Oq3Ba9NeCLg
    102j1Gv9s3JW9sQy6VX8HeVy53g68.u1NmGuOi11u3c17a1RkIw11.1EgBuGcHs2a2Ls2Ir11Dv9WVkVw65c17u2Sk26yS
    s2Lo5Ce9QmBkVA,2Ki1Ak91c5Ow2DaPdI1xCIaFQhR5q3Py102j6Ja4Is8Om1Jm3JqBUe143p6Ug34c1Oe11s16sAeC.3P
    s31kFJdP9gHc38W132X3m82e25a4o3Ka7MfFHwQYC7rFBm4o2GaS4,JY2Ps2HwGaCiP9W1OY12Qx6oR.4e2mAiFw5.1hEk
    1La5k7.Nq5aqcq16sk5k9Y1HWi5mBa1h19Yi2a4qGoIgNy1k18mCw8a5W1Eg1j4a26YJsLwAg6g8uFY3aPk9c1Ly1KYBiB
    .1Hg9kIw1y1o2WU.7y2CkCcHo9s18gFw14Ozb1k3q1KYDq2L.6k9o15k1Hk18y23q16et2U.2Nc1By2FY55i3Bs34kMoUE
    ,Se10GsR1Z32Y18q35m66m12eVu3Ng7Fq8Or45wPNj6GdAq2v2Lc2HqRyw1TsOuUa18a9u1AeAy1Ty7q3Kc8kMk14W8o1K
    y2BYCw1Fu20Y9Y27aFY9mQu2Is144xm1Kc37c7m1IWCHWCDxIHa4Bw2Ru39.GsE4n7Qs6Jq3AjT6,1KtU7WTTz1Kq3Ae2O
    e48w25k3Dm2Is1Li49Y3TcHcRwo1NmH3ZJ6kURx6c40m13cJ0k4JePMx1TuTYDAwA5cLl6SbCNr5Gr48b6UbH1k2Ja7IzA
    6t7cAw3Fa2Q.AkUq1JW3iAu5i17.Dv1Ky1Ac26y1AyRw2Ue1PoJMjO0y8cIax3o2LcNi2SYmOTXA8i3FoARiS8z1BWJ.1O
    u7WNw86e15s10YVa1Cw5QcBo7y7.ARjJAb8DcCw9yQrJPi7QrJy7Ew63.CNf29k2JyS7X17WVu1y44e6W1gSm24q2a16q1
    Me2a29i7w2z2Kf3OqVc3W5RbABgI.12y7YL.TcAa1.1My2Co16YIm18eZ13k1v1Fc32u14MZ1JmCRgV.FSzK1y2DY1L.2E
    hJ8b10i25m3Gc1LgZ15y4OW1BkZ1OY4o8q1Bo8q2g4Ce22y60m2Tr7CW173pO.Lm1k1Tp2Qa1Kg6aCE.BBbDq4Kl6Sk1Y1
    6q2m4f7wHcHwHY4Hj5Us3Y2Ho1DYHLvJMYHW1Pu14wFY3d1Ci1Eo1WHg5YKW1Cs2Au19a6w1Is1Oi1Fk14Kd3So4FmG4i1
    Mc3Te1Ho105xBaTeIw6Fw1Ds21k3CyFOm16w104n68mO6wJFtBSuL4nQKgRIX94y46t1eAW40e1KgKGu10Oj54g1Y9KkEU
    aQHd1DmPY3KuMe2M.D7gCEXMEu1Og6g15Dh4Be1VoI1cHL,N.Lk9uIuEq2Cu2VaU.8VYBaLi2Rm22y1Ko2.35w45a1GX16
    Fn2Gy2JmH0iB6a3CW2QyNHvKsEDfVa34a3De4k3i4TW1Ky23eAVi52aI7lDJy3SjOLZQHaPGzZ2Ad10G.AfR4jJSmHJfEE
    yADiJEhHLyCJ,KLYP0tG7eU7l2IW1A.MY5MWDy14g2Mo19e7s15c3KY1GcBu11a18c8q30i1Ss4CkU7nUg37m37WEq1UsJ
    i4OcAPYTAdJSaGBh3UuKs31i2Uk4Pg22k2Lg18k2Ig4Iy4M.EUr36x2Py5o4Ne5KwB2lAq4AgK5hE6WKHdCi6Am24m1Dy1
    OWRi2FmCOe10wSg3HeQi3DyNRp31W1Gg7RyNY45oVAz1Ki8i1SY36s12a1y4.9e2a3k4q13.IW1Pa7u45a1Eg1Eo10Y4Js
    Ci4W2V.1Kq1y1Aq6.2Am1Dy18u2Ee152X89c9Py7T,2Ne3KiCFk3Eu1CiKKzA8p87cB.J3a1PyER,D4WRSX7Qo24z34mDB
    nFUq3LfJUe59h3NbAQYL1h33aC0jOy13iH0Y5GbF2XUTq5Ta17GlAaG.1qS.T5uS5j1Tw1Nk18e7o1o4s2oMy12q8i9k2E
    W1Pa64mGm7y1Ti26m3RuEg1L.TWAi7iAu6JkP2p48x8s9e4OW3PY29mAK.1MoIHlCSn5Cm2EuLAqAY15m10Cv3FeB.1Iw1
    4c7Mg89g4NdBQY12k4NqJQbGPvEAc1Vc2OWGSu12Qx1Cc22i2cLi1Bg1Jc30iSi3Ci45s6Mg4G.1ImEq15YDIn1iIPX5Vw
    3Ol15i39.80XKo5c2a3e1HY1KggGW13.Ma9i1JaTqPo1KgDc7q2e6Vo4F,9mDf1DgLq97hB8i1QWTcubOg9uLKZP3eGk7u
    22sFkKcSqVgw20s15yRm10e25n12Gt10oJm1Vk20w2Pq1Fm48Y59i1Jc31W1HY65W13cQQh102m14Sn65o1w6Uq2Dy2Es1
    5w12i81b3HsBSaHAr15.C6pK8q8Kx6Er10AwD0tJIjQOgGItCQj2Vm25o2AW3IkFS.1Um3Tc11Sb97kLKkSChRLuVHz1Jn
    1PyPRW2NiDBj6DzNTaKUpO5cDRX48xH2XB0qIOW40gL8jETZ6RY1DgODqUElSTW64n2VYJNr3EkBNb1Fc41y1ByTRW14Fd
    59W34eLCYDAv4TW4zENtK8s8KjNr9JxOa1OkIW6Iq5DiN5h8Bq8BZ4PaJr50m7Hs6Ks1VY3k8w6Ve31t1FdKBX29k12eID
    sH1X2Mu5w3Fo1V.EUzIJW1JoBGW14Rp7DY21sBiSi11o7Lg27l78Y1b77W12g10KX3Uw19q6VeE.3VaPqCRsPShPU.4Os3
    5Z49r6PtVx64cQFr1JkFi7Ne2Gc2Fu4Re2HmGa2Qa1K.56mKGz44e1Ek61i2PYB1k2Ei16ApKRg1J,1Kk2DW2J,86X68lH
    2u5Jt1WHVh10FmHTj3U.DHy4Le15TrO6YEDfCBeD5k3Kg136,UWN8u7To13On1FYIk8e.52u32kMiU.2CW1Y2Vs6mJ.Mm4
    Ey1Uu1Ry3CY8EhB0cG5xJAqDyQRb1Iw7GaNsUw67eQuPSf2mDi2Ly2GgFiJkPm3Y3c1Ei34gFo4EkFwUeKm1VeQwI.40k1
    0.10c1Sg3EWNyNDX92yLP,5Qi1NY3Tq25a45y1Dg48iFQyRNZ94yJDzH5cIMcTOlH3m15g1LpGLv8qAPy2UgAFkJTh77vB
    YH7i39bAA.TJl7Ni5BW11.1Cu2UY28k7GYUy12gMPr2FY8Vk20y4Gi85a3j75j15aAKY13Mv5Au32Y3TY1BqE9c2w5MoPE
    v7QmJEpCu4GoKuJuMk52f65u9qNs16Y1Ga3YCm3GY2Co4FY32s4sGW4CeKg4k8.4Ao2o139jAFy3BuBBo14eGq5N.QEl6L
    cNLiA2zDyR4n1MY6JsMf4Co98c3Us3O.8WDPZ7Dz1J.56eEUpHPsKIq14Ov13i13q14W4FaCs7AwBQvHHu5i3yCTiOMpDD
    mP4hLw10Y3Cu32e1Y9m4BsCPzRHm84wDcCUnDO.13Gj3SkEPi15aJ8bIOY6Mw4OtLJl4BsCJ.4OY12a8Tc1s7q108z1Gs3
    MY2DoSAw13TXP3s8DeTUl65c41g4Sc9Ra33oADbJMd2Rg4CcBi2Ag2IW87c3QsPSj2t1GyKa1UuHo15gLeZ3sMy21uBkTm
    7uLc2Ssw21o3Jq2Vq1BeTiLqEY11k11YHo12Y25w12w32u1Vk7q17Hx5cUwSq2Fg15.29iPuXW16k27i6mBiGcBKXLPW1O
    qF.4LoOw3e2SW1Rg111b120w12Hh14b18m2Kw60s18c5Je2GW1EYBQYVIdCT.Ht9Oj34w2Fn6ToCDWN1rIEi95xA8WH6w1
    Mm13FXU.66.Ne23gBEhAFY5OfHKmD0lQ1iPQvQ5gPVhCRlJy1Ui7Fa27c2OYHHq101lNCYG5c18Bn9Lu6H.AuAUoOAX9Bm
    Q1uULbEQcFEpEjLLkCDbB8m5Bx3FgJM,HFg87v5HWI4l34qC0WJ.2NwFKw33sQ5j78v6l47d16o7Y8Pa8DaCHo1Aa55w11
    GrC7e1PnENnBNwAFk2yCNk3LoT4b2QqCEaKNzTu87w3KY1Tm3CY16i28cPMlAVkRRaJUt7OvA6d130kUEZ31mD4e83cRMZ
    5MmE5iC7i117,2Ab1Lm3MkCH.6Vw8PoPApCByI5z5ViEOu4Ao28m25s4CqNMdERu7AiPKrZ5Ra4PqA9u24uT0p2TzTqPyG
    g3Ts1Do12eEc15g1JeDa38yDt2QsXWVs22W7OiSe2Rc4m6g2TW7JlN7n58xDaKtU7u2Bk4Da13Md6TW2Ej12e1GW2Ic2YC
    m11u16.8.1JeQu1D.1Pg2Om2Du7k24q8Y2BoQY1Eq15u31o18yROvHe4AaLaFa95o3Y93v8Si43iJ.GPdE4wA8uKhKTv84
    k3Dw6Iy11Fp2Gg4Tu6Rg2EmAUc6Y1NsRNzUk45k5EqLs5L.7yMW9Ey1c4Eu2Hk6rREx9Vw3Kg4OeGAz8SiHDvDBoLu2MyL
    Y1Hc22mCVgDQrIBa17Tl8Ro25mG9mRTj2o12w1Bp1Qu52c4Qu1Eo2Ju2Me1IeMu17W1Cu2Oo46e2QsLe2AkQe12NxLJkMQ
    j1MyA0W33g20i16e6Ri6Kc3Nq2Rg14oL3,E1,ALo7PkDJW14Nr5c5i12wFs5Gq16c9Pk2Os4Pm7Ma28e4W1g3OyCuSBv2C
    .CLx8wF2iBVsKVpOcKi6Pe12k5FiRk17u28W5Ji1GqVEr13IyO9v2RkE3qIy4Ke127z3Oy28q3s41e16i1o1TkQi1Le9s4
    Fa21g7y3Cy4OeVMZ16IkIG,3Gm9Am45vTAp26WQUiFGlGLs5RxG3j3DWR5c17LpZ16No8Qh2Ar5pE6n2N.51q4B.W1gH4p
    8Fvi1imikee1gc2seUUkUUZPOoHGh87,1YXXc.ee1oZpcf1im1Wz1o1c5a2r2ucj1X3W1cmq1x1bm2a2b1m1YOcKfu1Zse
    rqr1gXW3i.1f1kh2XEpDs2uoe2z,2ct3ygBBwBAzhn1cf1kwo1s1h3Wb1mXW1l1W1gomoruuf1gnXW1gZZkm1qdiZgXW1c
    jo.KPkKO,XWg1cc2Lk2KvdkcccXW.cfmXXobXWbioog1ciQ7iQ6vgeiqkmqj1qegik1ktmXW1cr1kstswb1Ymb2Z1mqUHm
    ZUFtXW1Wlwwsmie130m130x1eceXWycH3YH2teZkiqwcciokZ2Iz2JcgNlOoui2Qs2Pxfu1gskZqckyK5WDCm11Fr9Hy5F
    cF0Xjiym3we1fXW1Wzoxv3a4a1r1q2,1ckl2c1lir.wr4a2h1k1dm1og2Xe1m1z1sb1wyXW2qi1l,Zy1n5mm2e1l1z2.1l
    1aXW1,h2s3w1pDZDu1i2fe1sk1Y3bm2k2b2a3c1h1s1t1oo1X4Y1x2W1nZ1.2b5icDPWDQtcfk3el3h3yb1wjs1kvh1kqo
    b.jicdokecg1mumZiiZeckibK,Lis1aXW1k1di1W1s5m3n2l1.ssy1e,kk1ee.bXW3m3fy2o.g5i5Z4a1l2i9LY9Mz1h3w
    w3g1rw1W2g2ddr1m.bkcZypoh1YuZcXXioku7Ou7OZmXWikkGPgGNxhbwbsbmid1Wq1w53,4y4Vo1W1g2cv4,4wXW4ujzu
    1d1a2k2w2d1fXW2wo3Y2ccyph2kv1We1d2gXW1aZu1w6b5swoich1agiXWsgmece51Y50zke2e1cugcuf1gcffmkikd1cc
    XWikyck1YXWoioidZDzFuc70v71ge1eie1Fp1HY1Yhkh.lq1c1Y1gdxAWAb2asc4i3xfre.nZZ3gkfd2ame1adb2Yh1Wc1
    W2x2miygkZgi1Yme1k1WZns1uXWyZd.qduec1x2.XWg104c103x2a2aXWkoZmyjdXWmZmXWeicdggkik5gZ5Zki1eguqmg
    c1,2ciXWcowkgwZdubqr1mhZooi1W1s2i1l1gl1fDkBf2c4W4lp1q1t2e1jj1kh1l2u2Y1p2qy1n1hfm1k2X2a2b2sZ1b2
    ow5s6f1m1j1mhXWh1i1v5k2p2ox1,CfCyq1Z2e7i3n,1XXWqvkq1.2jr1wXW3qp1jZ2etd1Xoqic3Wg1,XX1aqhrw1bbr2
    c2gd,2i1nk1Xm1se1.bZ2.2,hev1aEQ.EQv1qd1egjubZccoXWgZomeeqgccXW.y1Yinio1gkmt1gXWe3.5Z1a4ej1j1g3
    Y3p10.10v1g1Xbni2v2.4e1ze3k2hk1pk5u1b1WDWCx4mnz2u3h2y1fj1k1k4rb5i2u2pk1y1rq2g3b5c1.2zy1e1YEmGj
    1a1p5oom2nDw9hb1cg2Z3g1.nxcv1y1j3WrEIcEIpXW13h13mw3y3jbbokd1ug1l2WZoqXWcZc81e80d.ZnukZ1iksXWJ0
    mIU,gwwweheokqbmXW1YOaMnlnNoJzXWb1n3etin1yZmeXWpe.1eikhh1gi2gn1Ytbov1.gkAZAmemic1omooXWO1aO0r1
    apupZ1W1oclsXW2i1p3q2x1b2cZ1uh1v3c3o3t3o3p3k3Z2wjZiw3h1in2a1Bi17z2o1x1my1t1w6i8n2.s1go2Y1X1.1p
    qb1n12uVh4h4a1h1s5i8b,8e3l3.3X4sg4h2u3,m1e1b6a2fz2xw4c2v1p1W3qc1Xqb5tBeb1t1wx1l2s1X3h3u3l1w2p3
    adZ2g1l4of2c1Zc1c1h1Y6Uj6Uc1e2bo1v8m9x1Wfl2W2ss1s1q1vGuHZlt1.5f6y3Z2m2p2WoBW9z1X3a3n6k3v4c3Z1u
    py1z1X1j6.d1e1v1.XWvDOYDLvoZrhl3cx.3h3Y1Y1asDHaDHv1ogO1uO1b1qZ5Qi5QdMRiMQlfkmqhmgc1mXWkXWgZsud
    qkkXWgeZcgisiowyZofPDWPBjuXWmqZ3upyo1ouy1p1s1x1ju2Wb3g2y1z1j1s1b1o2,eyf2a1g1j1a3iDI.DHlt1ch1,1
    wb2Zj5m3Y2,r2W2X3im15W15,7g1wt5h1c2W2z.2kz1b1w1jx3i2Zu,1ig4W4a4X1h5q1d2Z1t4o4X4u2p2z2gp1g2rDuE
    b1u4s2o1b3a1b1w1jz1i1b2cXW4j1k1y2dAc3XJuMXwk4a4x4W4b4e6j7c2t1v9WvbqZ1Z1f9o8j1ij2f3ke3a5v4y1Xbe
    1iy1v3ir1m1ng1qd1d2.c1Z1m1X.1Z1yZAjAqhm1a.v2W1c3kl1y4c4hwhh3a1f1cf3Yv2Wd4w1X3e2bf1js1k2e6w7l1a
    1eg2u1zi1gpuj1cwh.mdk.euyiZgcqXWeXWkiy1wsgZkugwi1cl1aebsg1YbXW1obHEnHGox1cjm1mhjf1q1YXWLOqLOZ1
    eboodkZ4.1h1u1di2iq1XCg9x6s4r2x3so1u1j2Yj1n1uymxmwoy1eq2eiiEdFWegcigbXWmZyZcmcZobuok1YoqdZ1c1h
    1g1Whegcub1YXW1d1kZl1ckeob2W,1Yzohgt1wdomsh2YXWdi1ZsnXW1ocf1kolXXc1YfuwXWb1kfqXWkXXdigcgcggeie
    eodkXW1kggXXouqfwegce7Ki7JfyZd2ihjmXWt1wXW1W1e.e1Xs1sZh1idk1Wb1ckekdXWbwksecmu.1YkHgGjGsEh4q1r
    1cr1.z1m1cti2ctiq1jbqi2chx2ep1euZo1eZ1i2Ypohhb2miu1esIQgIQZgikXW1Ww1citc2iiuXWmZ9,Baselw1gz1oX
    WmIJgIIxqgu1Wbeb1e2W1nk1WZhASgARveeckbkXWegXWgme1cyhf2y1tXWi1mx.1s2s7j4q4b4al3Y1X1WxqXWhc3Whm1
    b1Wb,md3b3w3crue1t1c1mw2oe2zZ7u6Xmw2Xg2Yr1l2yget1ov1c1Wp1ah,1Yomiz1Wmq.y1gqtqrmuZZdugeid1kjskF
    5qF4veccgwf1slt3uk1xgyr1a2y1xn2grk1,1g3Yr2z3g1b1.2Wvt1c1cr1b9c9ty2y2f1p1a2oimj1yp1Z2gi1qb,2W1b
    1jc1m2g2Y2tjgsvho2yrlohXW2W,Z1eZoAzAo8Ja8I,qXWekbeXWcnyXW9wcumXXcXWgZgmXWoXWb1asgdiZiosZdqwemt
    oc5Rq5QvXWguZyieskCEeCDjbmmkXWeim1mf1WfwkciekuZbkegcicZ1knm1eNHxNHw3Wsvg1p1kf3e1rc2s.jw1wAKYAK
    hn1ib5h7idpXW.1Wicrc1.t1WZ4f3g1kmiqjiecn1WggoZ1X1ciXWm1eXWeeXWeceeek1ecyhy1qZidiibkcXW3x4ekXWk
    1Wi1qv1w,3icfx2cZm9q9Xnb1t2o2r2y3X5wZ1z1wZ1Wl1mt1jf1fXW6y1i1Ytev7d6ulez3q4bc2u1l2W4w2W2n1x3Wk2
    t3e4r3k1Y2l1c1u1ib6d7uC.Gt7c4d1cH.Djxv4c3,1g1p2d1r4es4f9i6n5mk2X3sv1b2Wr,i1Y3h8Y2bt2eXW1gxrZ1n
    4g2et1XlCaBls2u2g1vql1.3t2mm5W6d1i2hm1c3q,1i1j1mioop1y1aqnxfw1wn1k1W.RVnS0Wuos2c1YkXW1,XW2sl1i
    c1j1qLsNn2qsuexf1g2evcnen1kng1f1a2sung1jg,4kZ1q2vc2k1x1ak1hj1Ym9u6dd1x2y1wze1Y7Gk7It1q1Z1gZt3g
    e1b3Wb,nXW1m3v4WiZyZ1Yie1b1gqb1Ymigq1kd2Y2po3o4d1Y1ih1w1hq1h1mw1Wz1cXW1YgXWg1wqjnvs1cobq3Y2hmi
    XW1kephc1g2,4ebobqdiiemiicqiqodkeeoecXW1scXWsygu1ejf1Wco1au1spvc3g,Zr2edc2gl1X1gXWvq2aqt1o1aov
    dy2e3fc1i1pd3ah1e3p3ijmq1e67o68hi1e1j1queZhyiZ1avyeiqewcgXWeeXWAYmbqgcciyswcomfieXWk1n1wL7tL9Y
    d1etXWho1cl2eZp2edXWqXWidobe93.93t4j4mc5akgc.1o2qff1iufr1W1X2WXWvg1qwXWr1.XWz1W2exhg1kdcegn1au
    f3j3qz2afsikbZmZqbei1apug1k1hymee1Yo1qZ1X1ewh1Ydmjqef,1syobwdf.ddoqikXX3oegsco2eudoi9o9d1avXW1
    mgw1f1ant1w1WZg4Z5mXY4f3ut1ocksmm33c33j1YhgZsZk1qmcg2ycN9vN9e2m1Ym1qb1swcucgsZ1qbl2YqghuZkkXWo
    cikqcj2alXW2o1,1i1o1lf4yl1bg1u1v4y5jwi4wjdo4Z7i1jb3c2k1h4s1j1hqnq1mhk2ag1wz1n5sfXW1p2i1yXW1adx
    1h1sxn1w3kjZ1Xgq2kts1f1qm1az1micfw14Z14mick2d2ccebGeiesccXWmoZk1WZbiwITfISysZqZckigd4WmkXW1ese
    f2w1tcZcmwj2audc1edsXWbgccXW1idbg6OX6PW3a3n2guccuhebmeukkqgXWkccjm1eggcc129j129qkowpilwigXWwwb
    d1YXW1Wece1a1a3Mc3LxEHdEHmZ1sd2w1fd1kkqqf2YgXXeZ3mici.Ze2ec1okqcgqfXWkfwc1WXWgmfuhkXWjq4cXWyoX
    W.2efchl1wXWeXWqdq.r2d3m1cw.dbeh1mn.foeeZicZ4eewg1WccXWsXWeXWeqfekdkgu1ccieXWccXYgXWe1cZwbXWem
    1w2W1X.iXWoXWowws1ZyqcXW1aZc1Xy5q4nZZ2iZtsljcsnj2s1dsZd1W1m1h1gn1wkm1Wc7Wig1qZ1x1oe2gf8q8vf2i2
    ,d3WbZoc1iXWk1dZq1q1mb2g3vu2Ysiq1cdjdcwqx1mj2i1bmc.1yXWe5mgggmeXWkefwog1Wze3Kv3MucXXgocZeiemic
    XWccXXsXWK5ZK5.wu1cwoc1WfXXiXWibyhg2Wmg13NZ8PoJ9cDVhH8nFRy"

/-- **The plane of JIS X 0212.** -/
def jis212 : Grid := .ofPacked 0x21 0x21 94
  "W3h1Do1Z10,12ag12z12wZ15v1GkXWWd1Efi1qW1bh1XZiG7gG7zG7cWBcEPXcXX2YWW1zWWc1yWW1vWZ1yXY1u3r3wrub
    1t1.W1Y3gXfcXWW1Y4eXfcXWW2z1Pp4sWW1kWWwWW1WbWWu7b7sWW1g8nWlo2u2Z3mscisbqc5d5u7f8o6pW1j3xZgb4YC
    uCxg3,b4ecg4h4eg4hZeZ5YffkWWgcgbg5lZeZGa9,jgjwcegbogb7fcZgbFy8Zf7l8Wgbgcgbkb8nZeZ9a6m6djofj7Wg
    bf6Z9l9ubegbWc9rZgb2aCuCxg2Xb2gcg2j2gg2jZeZ3affkDwDncWWcg3nZeZEcWWAhgjwcegbogb5hcZgbD.8Zf5n6Yg
    bgcgbkb6pZeZ7c6m6djofj7Wgbf6Z7nc7oegbWB.168kcXWmkygXWgeeXXiuXWeesqcmiXWuXWgk.qXWk1cssysXWiXXkm
    cccoXYcXWieXWkeXXc1ie3W2xccccecckXWcXWkcccmgmccekXYeXWeXWcXWgXWccccXXecXWgXW1eiccXYcXWgXWcXWcX
    Xcesgc.csXWcXXeeecccegXWeXYgimccXWcuXXeXWgcceXXgckXWcXWeXWeeeXW3j4kcXWcggXXcXXciXWcXZoiXWqXWee
    eXWeicceXWggXWcecccXWkciggieXXeXY1v1.mccXYigXWgXWcccXXeXWqoigccXWmic1oiXWmesigcsucccXWekmcXXce
    kgeqgXXesXWeyXWcXWcskqXWemqgwcXWcceXXioqXXmceicmcXYccoXYoXWkXXcXWcegccgececiXWigeXXcgXWecXWqem
    XXicieXWcXWkcXXcXXecemXXgsZ.ckccmXWimiigXWkiXWiggekXWgecXWcXWceeiseXWcieXWckXW.y1ammkXWciceXW.
    XWekc1WgccXWcccXWkuccceXWgggXWkeciXWcXWeXWekcXXgmgeXW1cscemkcXYgeXWeXXm1iXWmeXWiXXgkcXWeeXWmcX
    WecXWec1qcXWgckXWcXYewXWqiycceecXWceXXgXWeegmyqkeceXam1egeccccXXcXXcXWceccciscXYeegccXWe1WXWee
    XWqgXWeXXmXYcXXgcgmmgXXgXWfXWweXWcceXZqjcqXWsXWiecigiXWcecXYgXWccXWgXWqXXkXWkXWi1YecXWecXZcXXc
    cXYcecqoecXWcXYcv1cXXewisXWgekoXWkcXWcgeiXWciXXgXWgXW2n2uXW.eXXkXWkimkseXWcXWisceeXW1YgeXXkXYc
    XWcXWgcmeXXgeoXW1cnkkiXWccccgegXWms1cXWiXWkXXMIyMIfgcXWgmXWecXWqgewXWkccXXccocceeXWecXW1WXWcge
    coiekXYegecicXWgceiuXXgXWemXWcXWceqgoXXgXWuiXWeXWcee1gXWcXWggiqicckseXWeyieeeecXXciiiXXcecXWgi
    ccmucgiigmXWmeXWm1W1y1tccggouqsXWkgoskXWyXYcecggcXWcXWc1cXWeXWccXWiecgXWwcmXZk1Wceq1WumXWgeecX
    WccceXW2eXWckXWgXXgegXWiXYsXWcieucXWcXWegocXWi1Wcmuj1meXWcyimi1qnXWcXWseigceXWecyfo,1iXYckeeqX
    WgXWccicoXYgcgXWmgiggXWsggibsXWmgi1WXWmmkicXWemXW.jseqyiloiceXWcscXZc1Yue1gcXWeccicsXXmkZeeXWc
    XWmcmk1mgXXkueXWgXYgeXWccgciccXWgXWckeggeieXWeoecXWeceXWugcmkXWiigloeXXmweXXciXZseXWkXXcXYeXWe
    gcueekXWeXWciiqkcumXXeiecXWkgksyXWegccgecceiXWgcXWeoXWkgegcgXYeXWiXWgccXWgeyeegXWiiecgXZcXWcec
    goXWiXWgXXcogXWe1icwkkeXWeXXcXWmciXWgXWgXWcXWieceuXWegXXwXWkmXYcXWicfmXWc1ccXWewcmgcXWgcc.giXX
    ckgXXccgcoqcgme1YXY1kcueXWegXWismXWg1YocoXWkXWkXWceeec1aXWeoXWeeiXYcgXWegXXgesXWkXWgeXWegXWcec
    eekgXWgXWgkcmXX.ggekecXXmgiickXWceXW1YXWkccgkcccXWgXWiXWiocwgcXYkXYcXXcskXWmcocoXXmXWcccccecgm
    sXXiiXYccXWgcyXWgXWeeicggcegXXigXWceceXWegeieqcXWkgcmccuXWmg1WeggioeeieeeogXXuekXWicgccm1accXW
    giXXggXWggXWeXWmXWeXYceXYccXWckbqiXWgcidqXXcXWgXW9s9ZXX1ctcsnXXcif1WXXecmXYeXWgqgXWekgXWcXWigc
    XWimgqeXWcwucmikegc1aumcXWgoXWoqkckcikesXWccecXWc1iXXekXX3w3pcXWceXWqiceiiscgXW5u3zigcqZiXWcXX
    cogiXWicqcXWe1YeXZegXYkccc.ccciccgXWggqsegeXXceeeXWoecXYeXWgXWiXXqeXWkXWceXW1scceemegiqgoXYcXW
    egXXoXWgXWyigcqgXWceccoXWccqeqiXWueqXWcccqcXWcwcgieeggoccegeXWkXWeXWgcXXeXWiqeemcueceXWcckscXX
    kkgXXeqXXmeZgggXXkXWmeigXXsXWiXWeXWckXXkgekgeXWekXWigmgeigciemgecioXWge1cggXWcXWiXWeXXcoXWgXWi
    XWiesgmceXWmekckecXWggXWccmkmXXgcicXWgXWguXWccecicXW1WcciccXWcsXXcuXWcXWge1acc.gmcXYccgcgmccXW
    cgc1YeegXWccmwXXCZCmXWcoee1omXWcgcoXWwkisXWccXX1ccoecgcigcgXWmiccXWcegkXWgckgg1sgiugecXWoXWeXW
    cgcXYeiXXgXWiuoc1YkkmmkXWecogXXcgXWceXX1wcXWuccmgccXWqccXWueXWiXWeeiXW,2ccXXgcXWeXWeXWkg1aXWig
    XWeXXecXXcgiXWiXYkXXiXWkqcXWc1YgsXWmigeXWeiXXksqewiecemXWgXYqXWoXW1X1kXWmcmXWoegXW.XZeqmiXWee1
    emcXYcgo1kqXZgXWe1WcuccXXmqgXXeXWicieccco1amicikoXWicyXWcXWmiXXemXWmeeXWc1wkcmXXsgeecimgigXWoX
    XcqXXecXWgccceieeXWckXWeXWeiigXWioyiXWeesekceqXWcmk.XWkXWegcXWcgciXWiXWigceXWgiXWeiXWcksecgciX
    YkXWccXWcXWckcegXWccXWoceccXWgcXXceXWgXWcocceXWckXWecXWeeXWeeggceXWcuXWccXXccXXeeemqXWqccXeome
    XWcXWgcgXWikigXXecXWeXW.XWgXXckXYkXXceXXcecXYeXWcXWegcgqXWegeicXWeXWigcXWgikXXemwgXWqXWeecXWim
    egXYegXWkccimXWc.coXaegucXWcgekc1YkiXXeckcXWoieXXeeicXWcomcXXeXWcceeXWcXWecXYicXWegiXWceXXc.rX
    WcXXgcsgkiXWoXXceygmXWokXXcXWcXbce1YgggcXWckimkcggXWieegkgggcXWccXWckkiXXiXXegXWgeXWgeXXegXWic
    XXcceecgcXXkeegoXWmXXgieiegXWcgqikoXWegiXXgcgcgXWegesXWegXWewgXXsXWcicwXWeXWgcgsccXWcXWgcgwgwi
    igqfXXiggXWeXYoccoXXecgXWcXW.pgXXigoXWyrXWeXWgmkgsccXXiccggeXWkcciXXgXWgcegeXWuccmmcXWcyXWicXY
    ceXWimXWcgcegemceXWciicgeXWcceiXWcgmgkXWgcXWcigkeekgccXWgXWeXXsXWcXWgqXWeeXWcXWiceeoekcceXWgXW
    iXWesceqmcgcXWseecesyXWcXWiemcXWqyuggcXXcXZeqcXXkmmugceXWeceXWgyiicXWiiecimeXWceXWgXYieecscXWc
    XXycocXWeXXcceXYcecXWcXWsciiXWcgicXWceXWwgufXXkXaecgcgXWccmeXWqXWoisckskXWeXXeieXXgcgXXccXWeqe
    cs.gXXkcXXemXWiegeguXXcXWkXWigcgcXWcXWocekocXWgcXXcXWceXXgiXWkXWoXWeqeXWcqXZkXXqc2m1zeXWgXWcgg
    XWeXW.oXWgciXWemXWgXWcgeqiXWcmcckmcXWekeXWgikeiXWeeggeceXW9.ZcXXgXWeoeXWoXXgcXYmgwXYuccXXiXWii
    XWggemoeXWeikXWwggcegcXWeoeXXoXWceXXccXWcmXYgckccgXWccXWcccg1wgcmggwmk.coXWgyXW1WicecXWcXWoyXW
    ccXWeeXWgiouXXgccgeigiicqceckiqXWkXXgcos1WvXXieoceegwgcm1YncigXWkcgcXWeemXWgXXeXWcXWgcXWewgXWi
    XWegXWksckqXYieXWcikgegkmmccXXcXWecXWgeecccXWiXWcXWeXYgccceeccXWmsiikccgcecmXWkXWcXWkXWcXW4q3p
    cXXcXWsXXcegecXWiXXekXWegXX1qoicXWcccmicXWeXWcXXqXWce1cXXmckXXeq8r9icwcXWeiigicgg6v8cswcXWcecc
    XWgcXXcggXWcekeXWccgXWggyXWcqocXXicekeXWcciXWgegqueiXYi3u3nXWciXWgiccwcgXYceXWggXWcqmqXZeeeXbc
    mgsXXcccgXWecXWegiicXWcecycXXgXYeieXWe2Z2uciXWkcikekeXWgXWoXWcXXkXWceekcycccXWecgwXWeXYgeXZiee
    kXXe1egiccciiXXigcXXcXXkXXccwXWececgecc5,7ccXWmXWcgeXXeXWiiXWccikXWcXWmXWcXXcecouigeXWscXWqoXb
    cXWgeccXXicegiXXegqXWcmXXgmXWeXWceeXXkXWcgcicicceeXXiqlXXgcXXcXWqiXWcceicicceXYeegXWccceXWgioo
    ci1ocXXeXWoc1YeXWcsXZeXXoeqoXXgcsimXXkXWcXXcgkXXoXXegXWgcceXWekeieXXiXXoececiXYwgegXWkXWeXWiug
    XYi1oXZygccgceegciXWcocXWcXWqcccciXWekckXWcecccgXWieXXgXWggc.XXcXXeXXeeigXWcgXWckociXWgeXWgeie
    cXXmcXXckcyggXXkekXWikucXW1h2eemikXZcsXXiv1aisqcXWeceeXWkcciXWmcXW9qXWgXWmcccgccXWeXWecfsXWccX
    WgkcXWieoXWgicXWkcXWo1iXWuXWecgmZgggmgeXWcecXWkXWcckqig4sgec1aecgieXWgqXXkiXWeeeccciiXYcgeeXWc
    cuXWcig3f3iXWcqgeXXikecsXYeXWsceXYgeXWscXXimXYeXWmeXWcXXoXXmXWkmceiXWcXWgicgXWiciXWiXWcXWeoceo
    wkcXWkcXWx1eciXWmXWkXXkcXWcccXWgXXkXYekXWcgocXZeiXWm3oeXWeXX1WXWckcXWigXWcecXWcueXWgkegXWiegcg
    gweyXWkhcXWkXWeogXWo1WcigXWiggiweeXWccicXXciXXeucXXcm1WziXXcXWycXXeXWck1d2gtgXWgsXXgXXciegcXXc
    cccidXWgciXWcecXWcXWcXWkgXWmggcXXkeekmiXXkccXWggecXXekeicgXXcXYeiXXceXWc.XWecXWgkXWgXWcXakccce
    XWeXYcXWcgcXWecgXWkXYckXXecXWcXXccccXWeXWeeXXcmXWeXWeXWgcXXiXXiXZcXXcqXXeXWgickXWgXWcXWegegccX
    YcXZcXYeXYceccXXeXWcXXcccXWgccqcgXWckigeXWmXYceXWccXWqXWcXW1YXXmXXecXWcgkXWccXWecXXcXWcgecXYkc
    XWcceeeeeecXWcceqXXg1Z1oeXYcXZkkecXWegXW1cbXWcXWcgXWcgXWgXXkXXo1WXWcXYmgbkceccqgeecciecXXcXW1c
    ZFiXWikggXX1WXXciecXWocgecmcXWciXYkXWeXYgc3mXWgcXXkicgXYcXWg1accXXqykmXWcXWcXYioigeciXXeiXWgm1
    YoSIXSIkceXXskcqoXWcg1aXWcgXXiqc.cmgXWkcXWcXWogegieXXeccXWqwXXcXWgXWesceXWeXWcXXccXWceXWccXWcX
    XcXWeeXXgXWchkeuceeXWcye1WvXWkckcceeieXXcXWc1X1qkeemXXeXWcXWoXWcXWgc4WcXWcgeXWcXWgeeeg1iccXXeq
    ewiXWqgXXeXXeegXWgkXZgXYgXWiXXiXWkgXWcXWcXX3uccmsXXegXWecgksXWiXWccqeXXggXWggXWgXXmXWgXWioccXX
    ekXWicXWc1WjekXXceecm4yccXWecXXeceXWcceckcceXXgXWggXWccekXWcgXWecXbeXWcXYccgecXWgkickXXccXWeue
    XWqXXgeeccXWccXZiccXXkXWgXYcXXccXWgkeXWoXWcegXXiXWeXWcXWckXWkcmXWickceXWgggXYecXWcqgcicXXccgXW
    eXZmgXXkgcXXgXWgXXeXWccecXXgkXWz1Wdkccecg6uwic1cp1WkXWgXX1aXWcXXkcqniXWgeqXWugZegXXikXWgXWciXW
    cgeXWgXWcXYqqcceggeeggcXWsXYegXXiccceceXWswnimcXXeXWeeXW5yXXgcXYcmXWmceekggcXXeXX1acessieiXXcX
    XeemeXWkkXYccXWcXXgeggXWgcXWcecXWcXWcccXZwcXYceXWsXWgXZccie1cXYccXWmeXXc"

/-- What JIS X 0213 adds to the first plane. -/
def jis213First : Grid := .ofPacked 0x21 0x21 94
  "W3h3VGmhu3V8,NRiXXkXWCe6XWd71tXWiXW8bfGYXWWc7ZXX7bXW3MWXW39cXWdXWWk6Rh1,ce2.XWEdWd2DsdXWdWWBbZ
    uZ22pXWbe2u2gbXWc3KuXWWf8s1Vj57g370qZ3C5,2SfWvVaDz2j9Bw9Bn1gWv7Nq88x4UmXWW2o39qXXW3z53bfcghgcf
    WtHAZGJeXeHoXW50q51bzXY6iBl64WXeWWXbW1W74ZXjW1W6IuXY72XXWOnXX2R.1VtGu5hW,78eXj5cXjWd6E,XY2PluX
    XF7vXWcE6.XWE4lXW2nXWcccccWXFDYG0vXWeceXXcXXeXWgX.cXzcXd2s4Y5n3s4t2s4Y5n3s4pTgPlf1ykbk1igb7jTk
    Ppf1yMwMjbk1iMeL,b2n5b3m3dkwcv3igqo1kczx5b3m3dkwcvc3egqo1kczNkTZ1go1Y2o1Y6d1go1Y2o1YGg1sxi1W2j
    cu1W3b1ysi.1hzz1e2u,2xHjIi1aLrM.Z2z3cDj9ag2y2fCx4XZHk2a3Z1y1vecz2W1u2j2o3ndXW3u2n3yZ4v3w1l1dxW
    W5xENeXWWdXXE1b9pggXW3iEJqEJfref1Wdr1xXZWX3wmy1xeXW1n3i1fk5Z4kwwn1lXWjXW1a1YXW3n1mI5wXe19fXe1O
    fXg1LiXu6UmXo1m1ZfoZWe99t,21.Xo1HdXf8UW3h.2u3h1W2f3e1uk4r1qdo2W,6aXX1XXW3i2d93jWc91Y1Lzc7Gp9Bm
    9Av8OeXZ7lXWmKiZZWY8KzWZ,AYWY29mJnKTe6O1s760pD2kmXW5y5g1wcgo5i1nXWyquc1cwse2L9q2L6l1m2aXWws1Wm
    1chk5e3o2k2b1k2KKu2KItdo1e1m1i2KEo2KDxcEAbEEo2km1ggw1eEIjEJoc3g.s3c3i2JMu2JMlgki2JLq2JKfuim1i2
    JHq2JDfc1s1ks1i6Y1i2k5W3Zquq.uo1y3q1W1ys1u.2eio2IAo2I8p2a2I6q2I2,k2y.2y1X2HTc2HSpcXW2miuem1kXW
    4Y6TJe6THv.gXW3wmi2Y2H7e4CGw6TMd1WXWm1iqoXWqs2H0m2GQ,e2GTi2GRxy1i2GPw2GPZ6TSi6TPvfkkkq2eMJiMEf
    1Y1.m1c2W1Wu3k1Y4gksmk1sq1y6UVq6UQfw4CnW2Sq6SKc6O5z1i2m1k4i1g2kwioI9zIDi2ETqXW4E7o6T3r1i1Ygm1Y
    1aic2c70KY7J5bIIu1s2EEs2ECtXWwp2e1g2Wge1a1e4QxW39z13i3PW3cg4Yk6Y2D6s2D5x2.mci1kk1acmei1Wgwe1kw
    1euokc1c1ieo2gmg1uc1c2CVk2CQXXW2yqXWo1u2g1Wim2CGm2CBZ2CBc2C8dd2C8m2C1z1wi1eg1i1k4W1c2k..2as2c1
    m6qoo1ug.5m2n1Wy6a1XXWikk2mg2mm2AHo2ADr3k2AAi2A4bqwq1w1ncmiXWcCoBdg75No75MtXWmg.gXW1i29Rk29Qd1
    cqucLQjLRqy1c1q291k28Vj3e1,XW3ek1cie2Y3.3p1m2ii5a3h1Wi2s1me28TW28QZcy1ko1oieXWu.4W767u768,y1iw
    XWg1o289g286,o2cN1pyN2WmXWuXW1qk76Is76Gfemuki1Yo76FY76DruqXWm4WeNDn2UG.270be.q1a1Ysic1Yu2mg26S
    e26QZmXW2oku2e2ke4.3jc1WXW1cg6W3h.wue781Y77Vrs2Yeok1qy26EY26Cdicu1kc1ei1cgXWc2W264s261b1Y1oc4y
    k1Ykm4cs25Iy25Hxig1.oieXW1wsgXWmwm1Wkue3Wpi1YXW2c2c1eXW1X1k1a1Y2Wmw1ygw2u1wxc.c1kXWs24Fm24Fjsg
    o24Ay249Xcu3Wls3sc1i4YXWQ1lQ4..2ec3u7AFk7ACrXW23E.23Cj1k1k1qsXWcgi1.kmesk1.e1YXW233W232fccXXcX
    X1gcXWgwuqc1qXWc1Wgeg1d1kcXWwsqXW1a2ic1k1o4Ys1qR2XR5w1k1wckyXWei1Wo.o1qXWocc1Y1scXWogw1Wmck1cu
    u.1W1uc1YmXW.ee1ok1g1k3k4y7E6a7E4tuXWc1mk20Ty20Pt7E5.7E6Z3m..p2i1cee20HoXW20GnXW20GoXX20Ff20Fi
    3nXW20AZ20DqXW3n208d1qm1Yc7EQm7EPxsyc1k205a201t2g1Y1VUo1VTX1u7FIg7FHZo1e1y1c1i1u.wm1cyce2w1VBo
    1V7,c2o3Y1dc1eeSTb8DJy7GKn1gw1kiw1w1qgg2sXWusk.1Ymuq1.qo1ik1wssy1U7g1U2,2Xqg1U4g1U1bu1W2qeBs1T
    He1TCpk2o1Wygycw1T6a1T4l1c1Wci8.yq1e2i3c1kmXWi4.1Wio1S8i2R0poV0i1g7K8u7K7Z1ecXWiiqmXWm1W2oXWcX
    W6a4Xuyqgsg2oqwk1Wc1kXWmoc1Yq1mig1R5i1R1l1m1ae1c1q1aikkc7KN.7KGz1fiw2su1QBu1Q7b3d1ce1e.1ue2W2i
    1diXWu7LEg7LDv1a1W2Wg1PDu1PDf10Ch10DWq2e2Y4ccXW.6k1kXW2gXWo10St10Uw1k1sgkgu7q1c2Yg7MRk7MO,2m1O
    Kg1OKnXXyqcmm5g1OCy1O8x1a1a1wey1i1Ym1Wg1gg2.2q1W1ic1NIw4YXW1NHx.i1Y3gAw2W1MVw1MOd1egk1MMm1MLdq
    9g2Wek4qe1s3eu7PVw7PRl137v13Bk2g1Wq1.7Q7q7Q2l1W3Wgk1s2i1L3s1KT,ycccm1aukXWc1YkXW1ai1KJc1KHbXXw
    XWgocequ1e2o1u.iu1u2g1lXWog1kq2oXXcgew2q1Y3sqXWmy2Wi1ucg2eXX1sXWik2uo1mw1oXW2il3k1m1qokXWHw1am
    eesm.ie162d162sg7s2w1HLo1HJ,mXW2yw1HOs1HN,k4go1cXXu1gi2c1qwmo1id1q1H7i1H5,1gyi1H3s1H1nXWeXWcXW
    1GNk1GMtm4..2W7a4k6gXW2aqXWs1cgg6gucuo2eqk1o17Gp17Hk3a1u1dwe1Wki1Wq1sy1m1eie2e1..XWe1Yc1cAkXW2
    igu1ayw.w2s1f1Y1u81Rq81Qp2Y.6m2ckoeiXW..4W2q1.3qgeu12Qr16e11wBRW44i"

/-- **The second plane** of JIS X 0213. -/
def jis213Second : Grid := .ofPacked 0x21 0x21 94
  "808q6P8lye1mce1cmXW6P5s6P5ZD4t769.6P4r1W3gD7ZcD8uc6PEm6PEjmio1u1Z1mgu1k4.2xm1kg6PBu6P9vXWceiey
    o4w3fwmkgeDMnDOo.1YeqcgDRrDTsgoigwegk3e1tsXWcXWk.6P8a6P7rqXWqe2w6P8.6PBd6PAe6P9xiooE5lW2zE7k6P
    Fa6PEbg6PJW6PEr6PQq6PPj1YoEC,EDwusEEjEFi6Q1s5c6Q3hXW.1Yg6QJq6QFrm1Yuyb6QOi6QM,6QQc6QPjcquXW1WE
    QtERc6QUo6QSb1eXW1q1aqg6R3s2a6R3ji.2s1Y6RIW6RHvq6RLy7ASXXWF7miF7lF9aXW6Y3ZgFBrFDi2Wgk1.eoukmXW
    qeig6S8c6S5peccyXWo3eiFPtFQaeFQbFRoXWe6S7y6S6fikqFSvG0y6SCe2n6SAzseiwG0dG0o6S8c6S7t4W6SJm6SLnq
    2YmG4dG4qcXWm1mcyG6nG8egqieuii1eo1cq.XW6TGs6TEv.6TJc6TIv6TLc6TJjXWkXW6TIm6TGvmgXXk6TMqx6TIt1be
    XWs3W6TIk6TJZ6TMs.6TMjosGQjGQ.ecm1scmum6TOu6TNte1u2eXWccXWgqym6TRw6TQrs1i1aXW1aXWicm1Y6UBe7FKj
    HAwHAfHAyHBX8QPe89Czg6UEo6UDbXWk2e1W.wi1aiXWem6UHo3w7G7dHJyXWs1Yk2o1Y1i1a1aeXWc1Wccii1ucgiubmu
    o1W1yl2Wk1kmyece6V4WW5x6V2x1kI4tI6WI5zI6woI6rZI8kwI8nI8.2km702k6VVlggXXm70By1o70Cp70Fw1j70DrcI
    Cp7IUYh70FvcgXW70Eu70Eho70Gc70Ez70Hm5e70Ixs1uzegcuoqILrINqqINjINw70Q.7JIZIOuIOnIPccec1mcc70Sc7
    0Rx1okXWo711s711jiIRrITaISrITweIThIUW1W1YuIUxIVsIVhJ0sXXW8vXW71Gy71Djicykmwm724i722Zuk.729a728
    ,2q1w1Ww1a1ec1gwJCrJCygmXX.wXWgqJEhJGYucJGrJJc3euu1e734u734dXWys1ac1ege1ucXWki1wJStJTci1s1w73E
    W73CpXWgXWyei73F.73Djoc1k73Ps73Nr.k1ykiXW1We1mzk2ky3W73Ue73Rtkse744WXW741zekXWies73Vo73Ux74Cg7
    l743r1o1i748u749X2q3s2dXWmguXWk1m1imgk2uXWc1kssswc2wXWqc74Gs74FxXW1siL9jLAaicLAdLAu1g1c1Y1m1Wm
    eXWi2oeememuLFzLHwmeog1qq1uwdLMf7RDq75Mvgo75Pc3,75KvXY.i1YcmLOtLQWggLPtLQiLQdLTYM1hM2sgy766Y76
    5p76BsZ768jXWmq767e1g,766Zc766g764n764y6O7vDLd6Xc1aismc1im765emj763dm.763o763boekXWgeqcMEXMFge
    wck.kMIpMIuXXc.XWqm4Y75Uq7k4TKl28LXcmemeuXWmuwgMOXXW7T0w765pMQzMRq2eekoi1eMUzMVcc.smecg1ai766e
    .761l760oc765luXWgN2jN2ms1eqe76GW76ErXXume3a2vg1c76Ao768zioN9tNAa.c76Ce76Bp1cq.fwXW76Ic1n76Fti
    XXs76Im76HpgXX76Iw76IjNFZNGq1u.1gqimW5MZ1s1e77Es77DtXWqXX1awXWme1aog2mXWg784i784X..1c1miNSjNTa
    XWc1k1i.NVzO0ggcyeXW781e780Xs1scXWCXCoy2Wec1Y1YXWqegm77Qo77Ip77UeZ2j782nek.8z9gkXX1Wsy4Y1ngiOH
    jOIaswXWcXWeccXWewOKhONi1gyugm1W5w4r.c1Wcwy1ak784c782vieko3Y1t1ek2o1,ksP4tP5a1eXW1agu78Ay789rg
    me1q78EY78CrXWcmggPBZPBs1agecooei1Wc2g78Gu78Il1c78Ky78Hb2bmcq2mXWcXXgPKvPNWc2WjquPOrPSc1j1uicw
    XWg790q78VZoke2uQ0b2U4g241zqgXWI0xI1k1agw79Sk79RtXWqm1W7A1m79VnXWcXW1YQ6ZQ6wQ6jcQ8umyukXWQ9jQB
    kxics1iQBzQDmXW7AIs7AInXWcksgisggcmeycceekk1kk1c1s1pm2eyo1s1desiu1g1Yge7ASi7ARticmXWgiXW.cZ1wc
    k1af7B6u7B5v7B7i7B4,gkQTd86CW7BDpXWcokcc1skZqeXWe7BPe7BOnR1lR2yR2tR3qmoXWkqgscXWmiceos1i1ZoR6Z
    876Y7BVtoXW7C1u7C1be1gp7C3m87AZR7o7C4s7C4bwR7zR9m2mmiZmXWm7CPu7COZ7COw7CMxg7D3k7D0te1eo7D7g88N
    X88Qw1n7D7hos7DBg7DAvsXW7DDW88VfRKcieci3iXWicgcRLpRLygm7E3e7E2pXWegwou1u1yk7E7W7E4,s1YlXX1wygc
    muXWi1eXXe7EAq7E9lu1it1k1W.eS5jS6cu2cXXikoummiiXWqS8z8B6au8B6hSBumgkeSBtSCsu1WiseeeXWmeuesok1e
    q7FIo8C2XSGiecSF,SGyi1kXWw7FVYZ7FTv7FUs7FRf1jegXWcSKtySOw3zSLdSMm2g1hces7G4W8CQtSOqXWsSOxSQakm
    qi7G8a1q7G9Xcg1Yk1eoeXW1m2WimkmeoiXX7GR.2o1W7GR,7GRw7GQvXWo7H1q7H1f7GV.7GVri7H1u7H1Z7H4w7H3xi7
    H7a7H6l.kT4dT4ww7HCcv7H9lXWcm7HCi1Z8EIhT8eXW1YkT9dTAc7H9o7H9Zcgu7HCq7HCdsewXWq1mcyuoTFl8EUu5J9
    h1U4nmkemi1q2.cqoXWTLvTMkmcTLlTVqZeiXWu158z8MRW7HHz7HJg7HIhcXWq1YXW7HS.7HRvN1h7LPe6UNnk1a7I5i7
    I3,w1gcse1Yobkei.og1e2eugk1.eoe1a7ISk7IRp1Ye.7ISs7IQd1nkUGxUKm1,oUIzUJgei7IVa7IUXUJhUMaULbUMsU
    MhUMoXWUMdUNk1s1Wc1ei7JGc7JFp7JGk7JFz7JMi7JLfc7JNY7JMt7JTq7JSfoXW7JVw7JUvcosef7K1e7K0xUThUTqUT
    hUTy7K3i7K3Xm7K5g5O5rXW1RUhUUnUUwcgmq1gXWsckc2kk1W1YXWg4o3pc1ewo1eV9pVCaVAt2ZVDsmXWkc2wmgqo1g1
    kcg7K5.7K5v2c1aicXWmXWc7K8a7K7n1acgiVNfVTW4h1W1oVRjVSkXWg7KPc7KNzeiXXqe1W1WqXWkq1u2Y104r1.VVu1
    ecueXW7L3c7L1pccciysc7L5qbXW7L4Xiue.XWkci1Ys1ayeee7LEk7LDfe7LFy7LFp1PUY1PSxe1qoeycgguXWu1PNq1P
    NXc.c.gcwe10Iz10Kycmcekkcc.qgce.mwXWys7M6WZ7M3d1zcoy7M5.8N1p10Tq7M5c7M4,y2m1j7M6s7M6jcXWgXWc1g
    coo1ikgs112x113u.mi7MRaZ7MQt7MSo7MSb3a1wXXc1c7MSa7MSbco1iXW11BX11CY7N0y7MTl7MUw7MUZeg7N0q8OEx1
    1Fy1.qm1W1am2Wc1e11Kr11LYcsc11LX11Mce7NNa7NMf1gqmou5k1z2mm1q2i7NOo7NNrho1We.1k123l124iy1oqcsqX
    Wmc9u7NNs7NNj7NOaq7NObcoie1cgk7O4i7O2hZm12Jh12Jmq3cZg7OCm7OBXXW7OIW7OGli5.1o1a1a7P1a7OVZc1a1e2
    Y130,130Yq7P8g7P7jcuXWi7P9g8SAh132Ye1cq.sXWc2qk1YicXWi7PSm7PRZe138j13Au7PVs7PVdo1W1g1is.7QBg7Q
    6n1Y1LBc1LBX7QAW7Q9fi1L5.1L5rekcu1agkms2u7QJg7QInXW1q7QMuXW7QKfmg2Oy2Nv13Uv13Vukyi7R1W7QVte7R1
    u7R0ff.1h1eXWic1cgc1qcXWwXW1Ycoe1Yiwq1skieyXW1k7RNWd7RLrc1eqwXW7RLg7RJn1WiegeiemXWgcXW7RIWXW7R
    GvXWcsgsckog7RHWXW7RGpyXWkocmcwc2s7RGyu7RJbccmuooXWqc7RKo2z7RFvske1akc2.7RFo3g7RKheg1W5m7RFWl7
    REv3Xk1iki2ckmXW1v3mcms7RNw2.7RObcGqXWykXW7ROe7RMhq7RRy7RQp7S3e2g7RVdmXW7S0c7RVri2Y7S2o7S0l7S6
    q7S5Z7S9o92Kt16Cckgme16Cd92V.7SIXce16Dp16HY1W16Fr16Gyuk.cg1W7TJk1a7THtggg1WXWw.iegXWo1Y1eqXWkc
    16Lr94Tg7U6x1WXWz2c2W4ice7UIW7UHnXWeXWeeig1i7UQW7UPzccikXWc1i16Sx95Ri7UTrXW7V0c7UV,XX7V3g7V1,X
    XmXXgXWimXW.eXW4ee1egcgkuii7VEo7VDjqe.migk1ai.ow179j17Ey17Eh17Ey17Eh17Em7VRq7VQvsce17Ex17Fggig
    1sqgcgk1Wos17Hx17Iu1ockXWmeXW3Wki812s6c818tkkq2w1tiseXWgZ812m811t819Y819d815c813dcXXeiicXW819s
    819diXW.1m818y81AXXW819a818lgeccsXXcXWccei6ww1qp81Cw81BxkXW81Hm99Mt99Lk81En186Z187ao1ie81Pm81P
    Xc81Hm81G,eXWmkqwo1.rggkgcygiXWe1a18Ex18GenuweXW5.61Py61Pni1ky82Eg82C,82Ns82Lnom1ae18Ot18Ow1gc
    1koeeggXWyce839q839f83Ai839p83Ba83Axei83Jy"

/-- Places of the first plane that JIS X 0213 gives to a letter with a mark, which are two
characters. -/
def jis213Pairs : List ((Nat × Nat) × List Nat) :=
  [((0x24, 0x77), [0x304B, 0x309A]), ((0x24, 0x78), [0x304D, 0x309A]),
    ((0x24, 0x79), [0x304F, 0x309A]), ((0x24, 0x7A), [0x3051, 0x309A]),
    ((0x24, 0x7B), [0x3053, 0x309A]), ((0x25, 0x77), [0x30AB, 0x309A]),
    ((0x25, 0x78), [0x30AD, 0x309A]), ((0x25, 0x79), [0x30AF, 0x309A]),
    ((0x25, 0x7A), [0x30B1, 0x309A]), ((0x25, 0x7B), [0x30B3, 0x309A]),
    ((0x25, 0x7C), [0x30BB, 0x309A]), ((0x25, 0x7D), [0x30C4, 0x309A]),
    ((0x25, 0x7E), [0x30C8, 0x309A]), ((0x26, 0x78), [0x31F7, 0x309A]),
    ((0x2B, 0x44), [0xE6, 0x300]), ((0x2B, 0x48), [0x254, 0x300]),
    ((0x2B, 0x49), [0x254, 0x301]), ((0x2B, 0x4A), [0x28C, 0x300]),
    ((0x2B, 0x4B), [0x28C, 0x301]), ((0x2B, 0x4C), [0x259, 0x300]),
    ((0x2B, 0x4D), [0x259, 0x301]), ((0x2B, 0x4E), [0x25A, 0x300]),
    ((0x2B, 0x4F), [0x25A, 0x301]), ((0x2B, 0x65), [0x2E9, 0x2E5]),
    ((0x2B, 0x66), [0x2E5, 0x2E9])]

/-- What Windows adds to the first plane, by the two bytes of a character: the additions of two
makers of computers, and characters for private use. -/
def windowsJapanese : Grid := .ofPacked 0x81 0x40 189
  "W,3VL.3EJpWv3EEoWpDeXWW1sXWWVY3DObXo1HdXeWW8UY3h.2u3h1W2f3e1uk4r1qdo2W,6aXX1XXW3i2dWd2jWW1Lzc7
    Gp9Bm9Av8OeXZ7lXWmKiZZ8Ir1W3je1xq8u8hZAY8rvXWWINm1E6Y59c52wCX6QvQHdGFc58r19mL3aLVz3Rj8HxBq1uge
    3k1y3wn1Yj3q7e1z2d2W2o2s2z5c6Y1v7c1s3q2a2.2q8ms1s1u2im1y4.2a2W2u2J3a2INb1b2W5k8mTew4m1wZ2H4oWW
    XW2GNb1g5q4oock4a1kPw6sCNWCLl1g3c8o1g3u3c2w2EB.2EC,2u4uXW1mLa1e3e5Y2m8W2oi5gp4u2z2W2kl6o7u9eLW
    6u3y3a8YBc1i2k3b2i1Xk4azc29Rq29P,2km1cy3u1g291u28Sd5i9m9b4a4e8u28Kg28At28Aw287v4s4.3u2h2yu6gcF
    c6q1y2s1l6u2s8e1n2m1k2e2qjs3y2e3h1i8eCq2y4Y1Yc2a5y2k6gt5o1jXW24C.245f3yBey6k23Fc239,4kwyy1Z3i1
    b3agZi3g2m1k6c6.He1scdu21Na21DZI9lINc2y1k1kBk20EoXX208j208m208XJk1k1VJi1VJZBe1V8W1UDh1g5u1l3k7
    wFi5s1T7y1RHx6a1y4o3W5c6wAWkWW1c1QBg1Q6,1Q7YXW1P1rE.Hy2i4c2.1m2a1NKe1NIv5y2wNag1.6g1MAy1LLf1LL
    iXW1KRz7m1KKo1KHZ1cBedm1WXWrXW2asj3Ykf1cun1n2.4Y3XXW7W1Xcp1JLm1JLbux5cf2j1JIy1JGr1,1.1t6.1p4y2
    c1o1s3q1geKs1I4s4y1HOv1c8goosccgGc.1GSiXW1GGf1GGi1G8zBY8ue9qd1y2cs4iNYh1ECc1E1fBoWX1UMZXe3F6qc
    DxhW5yFGbX1zWWX5xWWX5xWWX5xWWX5xWWX5xWWX5xWWX5xWWX5xWWX5xWWX3y32UlXe1pXe3F7qcDxh36DZ8HtuHg1E5i
    59c52wCX6QvQHdGFc58r19mL3aLVz3Rj8HxBq1uge3k1y3wn1Yj3q7e1z2d2W2o2s2z5c6Y1v7cWW1s3q2a2.2q8ms1s1u
    2im1y4.2a2W2u2J3a2INb1b2W5k8mTew4m1wZ2H4oXW2GNb1g5q4oock4a1kPw6sCNWCLl1g3c8o1g3u3c2w2EB.2EC,2u
    4uXW1mLa1e3e5Y2m8W2oi5gp4u2z2W2kl6o7u9eLW6u3y3a8YBc1i2k3b2i1Xk4azc29Rq29P,2km1cy3u1g291u28Sd5i
    9m9b4a4e8u28Kg28At28Aw287v4s4.3u2h2yu6gcFc6q1y2s1l6u2s8e1n2m1k2e2qjs3y2e3h1i8eCq2y4Y1Yc2a5y2k6
    gt5o1jXW24C.245f3yBey6k23Fc239,4kwyy1Z3i1b3agZi3g2m1k6c6.He1scdu21Na21DZI9lINc2y1k1kBk20EoXWWW
    XW208j208m208XJk1k1VJi1VJZBe1V8W1UDh1g5u1l3k7wFi5s1T7y1RHx6a1y4o3W5c6wAWk1c1QBg1Q6,1Q7YXW1P1rE
    .Hy2i4c2.1m2a1NKe1NIv5y2wNag1.6g1MAy1LLf1LLiXW1KRz7m1KKo1KHZ1cBedm1WXWrXW2asj3Ykf1cun1n2.4Y3XX
    W7W1Xcp1JLm1JLbux5cf2j1JIy1JGr1,1.1t6.1p4y2c1o1s3q1geKs1I4s4y1HOv1c8goosccgGc.1GSiXW1GGf1GGi1G
    8zBY8ue9qd1y2cs4iNYh1ECc1E1fBo"

end Charset
end OpenBroker

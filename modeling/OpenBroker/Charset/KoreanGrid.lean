import OpenBroker.Charset.Basic

/-!
# The grids of Korean

The standard KS X 1001 puts characters on a plane of 94 rows with 94 columns.  It has only
the syllables that are common; Windows adds the other ones, by the two bytes of a
character.
-/
namespace OpenBroker
namespace Charset

/-- **The plane of KS X 1001.** -/
def ks1001 : Grid := .ofPacked 0x21 0x21 94
  "O0YXXNKtFM.XWFNzNLuNLjFMo11Y3EHm3EGX12fXWeXW7VmXWxXeNMX2k2YGMqgXW4l1kGOfFOcXWDY2o3FBiXWg3CQdb2
    2X8i6yHXi5s,GQtFPg2SuZ3rgZlZ2hZ1eZuZ22rbXWcXW78W6QpXW5Z2e2X1orXW2fe7uXWhXW5pZbXW3ERs3F1Xc2weGK
    ,3VAs3U9l1aidZ12Z12e13r1.11aFL.1xbGMtG6iDp2PaZpZA.fXWgcf1Sr1JW2h2yXW3,1cXWeZZeCW5pZ.cIMnFMsXWN
    gccdc2DifXWc61e6d8Gj9Ba9Ah9AY1k9Bl7hFVzWs3V5eX1vAuApX,8k37BbX2y81zXeWa1pXeWcETnXlcXbWdoXlcXbWb
    GJmcsgofo1Yn1Yo3tcwgofw1Yn1Y1Y2t1Wl1Wo2b1et1es3XZqZdZlZ1aXWcXWgXWcXWeXWeXWeXWeXWeXWcXWcXcWv74u
    XX98f98i2w2ZXYxXe2o3xXX4Y4lXW4W2ZXWoXe3pXZ3kXa2,XZ96z99sXW3lXX4s1Z1nXX2w3bXY3axe1Xk1e1jWkPGXs2
    j7wWWwWWyc6p7s9n2g8o1vWWOHkXw6QtXu8pXjHRZG9kXWG9ncG9yXYG7n2u2Z3mscioc4r5u7f2W6q1vbOBmXw6N,Xu4Z
    XjHSplXWFSaucXY7RyX2nWg.X2qWdMEjXa1f1iXuWkXb1w1tXuW9c2JRaXWeeXYkXccXZegoXWcXXmXWegucmgg1gXWeeX
    WckXWcXYeXYggoXWcXXmXXceXWoXWcXXgeggqcqXWeeXWcceXXccXWkXWegckXWccmggqeXWmXWegoXWccmggqcqXWeeXY
    iXXccXWkXWegwXWm1eqXWegoXWcqgg1gXWeeXXmXWccm1wXWeeXWckXWccXWgcXXcgckXWcXXgeXWegoXWcXXmXWm3YXXc
    goXWcXXmXWewecmgguXWie1wXWeccoXWccXXiXWmwXWmXW1gmggoXWgm1wXWegmXXccXWkowXWmXWegoXWeoggoXWu1wXW
    eccciXXccg2WXWegoXWccmXXceXYkXWcXZccXXegoXWcXXmXWegoi2eXWcXWgcXWiXWcXXkXXegoXWcXXmXWegoXWeXWeg
    g1oXWegckXWcciXXggw2gggoXWcqXWegqccmXWeeXWoXWccm1go1wggoXWuXWmoXWgmXWegXXkXWccXWgcgg1gXWegckXW
    ccicXXceXZgXXcXZgXXegoXWcXXm3oXXceXWcXWiXWcccecXWegoXWcXXmggwXWmg1oXWeeXWccgXWccccegg1g1goggoX
    Wcq1wXWegoXWccm1go1imggqccmggoimXWeeXWckXWccm1wXWeeXWoXWcXYkXWegoXWcXXkXXegoXWcXX4WXWegcXWiXWc
    XXkXXegoXWcXXm1g2gXWegymo1g1wg3gXWegmXWi2e1wggoXWg2eXWeeXWoXWcqggoXWuggoXWccmXWegoXWcXYgXYegoX
    WcXXmXWe1Wc2eXWegoXWcXXkXXegoXWccmXWegoXWcXXmgycqXWegoXWccmg1a1uoggoXWccmggqccmXWegoXWccm1go1w
    XWegoecmXWegoXWccmXWegoXWccXWeXW1.XWegoXWccmXWecXZkXWccXWecXXegoXWcXYkXWmy2eXWegckXWccXWiXXego
    XWcXXmXWeguXXci1wXWcXWgckXWccmg1YXW2eggqccmggqcqXXceXYkXWccgcXWggqcq1wgg1gggoeqggoe2iXWeeXWckX
    WcXXcceXZeXZiXWccgeXWegoXWcXXgeXWey2mXWeeXWckXWccXWkXWeeXWoXWcXXmXWegqcXXgeg1oXXcgoXWccmg1Yo1g
    oXWegoXWug1oXWeeXYkXWccgXWcowo1wXWegymggoecmXWegoXWc2iXWegckXWccXXiXWegckXWcXXkXXegoXWcXXmXW1W
    2oXWeeXWoeXXm1imXW1WXWcXX2eXWegoXWg4W1w1imXWegoec5u1imggoXW2mXWegoXWccmXWcXWeXYkXWcXXgeXWegoXW
    cXXmXWegoXWccmggoimXZeXWcXWiXWcXXicXWegoXWcXXmXWegoXWcXXmggymXXcgckXWccgeXWegymggoeXWoggoXWcqX
    WegoXWccmXWeeXWoXWccccXWc1goXWegoimXWegoXWccmXWmoecmXWegXWmXWcc2eXWeeXWmXXccicXWcXWgoXWeXWkXXe
    goXWeXW1w2eXWegckXWeXWmgg3g1oXWeeXWckXWgmXWe1Yo1goggoXWu1wXWegoXWgm1go1wg2ymXWegciXXuggowXWego
    XWccmXWeXXcXXiXXcXXgXWcXWegoXWcXXmXWegeiXWccgcXWggquXWeXWcXYkXbcccXWegoXWccmXXcgcXWiXagXYggoXW
    cXWoXWegXXceXXccciXWegoXWcXXmXWewecmXWegoXWccmXWegoXWccmXWegXXkXWccmXWegoXWeXWmXWegoXWgmXWegoX
    WccmXWegoXWccciXWegkcXWccXcggoeqXWegXXiXXcXYgcXWecXXckXWcXYkXWegoXWcXXmXWeccoimgg1gXWegckXWccX
    WkXWegoXWccmggoXWeXWm1wXWegckXWccXXgXXmqccm1gXWmggoXWccmXWe1amXWegXXkXWccm1go1wXWegoXWcqggowXW
    egoXWcc2eXWeeXWckXWccXWeXWcXWecceiXWcXXmXWegoXWcXXmg1a2eXWegoXWcXXm1im1g2gXWegoXWccciXWmwo1gog
    goXW2YmXWegoXWgm1gXW2e1w1w1Yec2eXWegoXWgXWiXXeccoXWcXYkXWegoXWcXXmgccoi2eXWegoXWcXXmXWegoXWccm
    g1Yog1amXWegoXWccmggy2eggoXWccm1YwXWegoXWccm1gog1oggoXWccmggoimXWegoXWcc2eXWeeXXmXWccmXWegoXWc
    cmXWegoXWcXXmXW1g2eXWeeXWoXWcXXmXWegoXWccmggoXWcXXm1wXWegoXWccmXWegoim1imo1g1wXWegoXWccmggym1i
    mXWegoXWccmggowXWegoXWg2eXWegoXWccmXWegXWmXWcXXmXWegoXWcXXm1i2eXWegckXWcXXmXWegoXWccmg1Yog1oXW
    egoXWccicg1o1wg1Wcm1wXWegoXWccm1go1wXWegoXWgmggoimXWeeXWckXWcqggoXWuXWegoXWccmXXcgckXWcXXgeXWe
    goXWcXXmXW3mXWegoXWcXXmXWegoXWccmggoXWeXWmoqcqXWegoXWccm1i2eg1oggqcqXWeeXWckXWccm1i2eggoeqggoe
    cmggoXWc2iXWegoXWccmXWegieXWccmXWegoXWcXXm1i2eXWegckXWccmXWegoXWccmXWegoXWcXXmggquXWegieXWccge
    XWegucmXWe1WcmXWegqccmggqcqXWegieecmggoimXWegymXWegoXWccmXWegoecmXWecXYmXWccgeggoXWgmXWegoXWcc
    W2z246X3kDgBcQmLW8k7YIg2BoFi5DaJWXW3o1Ly47k10Y27s4AW2q2Le3aQ.19cGmIwEu4VW13PrJq9Y66kFs55o41e6K
    u4AY1o5Ta132X18m3BgBs6.28wm1K.Vq1OkAk9e3Ho3BmByUsHeFmIc27wTae47s5Ao13In3Jc8Ls3Jy57W14s4M.2BiSb
    85s12DX27kDw2Ic1TeAW6e1Ka17W17e1Tm3Fy9uJYCy2Os9Ni1QcXW5Ke167b4OqC8k5Qq8Mi1Lo11Jx2QyTg1Ci7kQY8e
    1Y12y5Eo4Huw3Ls9e3.TuSoCy1NY1RYTs3Ua1La2Vs16Nv2wHgUk35.4Eom2s1Ta2Ba2Im39gEa5Y2Ba3H.12k1Q3i1ILp
    Ug100t32c25Z2GRY1U4z1Gk8Vw10Ox1Pe48sQe2Es9wMwy4Jq18w4BWA8c4a1LEg1K8hSoBe127r7oNW6PqFw10w45aC1s
    2Ee3Ve2I.3Bk15Sx13eBEWDYBJlOgiC1Y6HsD5g6Cg162p6OgNSeVQr8Ma14gDy1Nc14o2Jw8So41q6FeV8,D7o3W15o47
    iFg13w4EcUq2FW6E.TCn4Va1Ds6VwUs5EqSAl7S.D5e7Nw3J.Ji12EXIm4uAY4oRuwBc1VaHe31mFmUi3k1Ic9.Ge4w3qQ
    e2FY1F.6w1Q.k2iHW19e8YVe1m15W4.18c2sDw17u3TY1RWGY1Sw22c3i12cO.162j2Pa1EmHm11cEe27cLs33Y6.3o2Sc
    3AcIw15kNW1B.NY1a5Ow9qP.55W3Jk14UXi6a2m18q1DmPeDm17Y24w14Y.2yI.HW11c1Fw4KW9gE.1Ca2Li7W9.E.Lm1m
    FeTa17Y8eVa1N5.1KMl1Pc1PqQY17a23u152j8A.LmPy8Ra8Vm8Iq137X7g2Qy4Fi1Au1w33a2IsA7k9KkNNv269w1F5v1
    5GxTaiI.4Bi19a16u1y18gBkPg79.3Aa62q30W5Ey14Lx6RW32m2Pg6KY2Fi50c3Bg2u1Jk16k1Fy2FuSNd5HiE1m5E.1K
    1o2JMh4Vo5g2Nm3Pm14g2G.1UeAq3Cq1RW27i2Vu1Eu4Ja1Kw13Fr73W19WMHk107nSWTo2Ro30s3Vy35o1Mc12oHg3Ns2
    Qa9Ms10Fh83iDTYOHh12s3Ss9g3KwFyQq3GYONaVRbGOq1Pq7A.10Bt12y1TuGY2MY19g4m3Ke2g1De12s49k1QyMa2NW1
    9uQm1Q.Pa42g4uNw43qLcLk16Pd2y1o6sIsOkOm4cAecAqOkMa2y22iSYKq1IwDw17q16m3aUcOi7k2k5k15uTu16WCW6y
    1Rw2s18y1Gq18sVeqiDi2Oe1DaSqSgLaAYRe5c3Hw7e1AgE.Si149Z2JiJOs9Tku3Gq159pJ7y2Gw4Ji2Vg11gSEZ24o3L
    YBGmFFZ1MiDMk3i3UY61.V8j11cCY8W1Pa5Uu8W3Po1Bq4NgHPbFRc91a4G.3MWN9t1Oq2AyDFy26W58W1FRu298,2GaGJ
    w78o1ESu2IHv1Kc12a57o33i4VW25u17iu13q3Nm2Hs1Ug1Cc2Ne11Ax24wF0Y31q46w75c1JEs27BXCGxGY3w7Po3Bq9y
    MIg12TfUW4Y7EW1Ua19iSk58W3Cy3M.Jc2SmOm29o4No1FSY2L3,5Cy5JuKW27y4Qk2Ky3w4Ew2TiXWEY1NQu1IUf121t2
    CW65u14w50a8Ao4wNCz1CsJ7s4DeOQzy16os25w8wDeCWcHo3e4w13aCw7.Ee8yK.1Bg1LmwJuXW4WMylPuDuEq5siKi2T
    a8.g5o2aDim1Gc6.5ckXW3c11uMuBsS.7.2m6W4OwJmFqJW2Qse2R.7WByXW5k22yGCnN5f29e7Ei2MkKNyU2j27Z2JTaX
    W2FFX3Ss2BIm2B3z3Y2B1WXa1K7X1K7aXZ1N1r1N1uXY298j298m23Sl23SoXW1H3v1H3y2ATZ2u82d2ISs28PbTa2He25
    BW21Ut21UwXX1U1n1U1qXW1OBhOQn1K.2FHYXZ2LEp2LEs2JSj3Ua7AoC2Y1SH.2FRt2Ga32kAJYCTh7m15wBe3Pf1X4Ix
    2J8i2FRt2RiEq2CH.XX22Dp22DsXa1FMl1FMoXf24OX24OaXW1ROj6VeNCZ2C5iXW1RUZ1RUcXW2EGr2EGuXc2F6nNJwHA
    rAPi1U4cXa1S5r1S5uXW2EHx8AqCQjDNuAQXL1wQFx7y9Y36oMsRW39W36a3W29sJi19o4QY1GcJWSY4EySm4AY12qNAX5
    Ge1Rw13.D9wTFzVm56y1HsVe3Hs7sHc4w33m55eNs1Og24cKg9e3SiJ8v4CY30a9Bu14.TKx1Fc5k30s1Qi19m24c69k3M
    Y5DyBJi180h4Ai1rRq1EkAgOiLW1BW1Ay7Dc74m39a22y4Tc45a11Lj23cFw8AZU.3Y2EkIW2c1Rm5c9k9iHuEwIs15i7o
    8.22wBkSq1Hk4qBeHY11s2D.9y13o8s4Sq2Qi1KgGk5iRu1a4WAs15Y1IqMkM0r23g15c4sCk1Vu15w12i1Bm6EiPDl41.
    2AW9mCa2S.29cAuD9a5Rq14QjM1gLQf1DW2aGoJm6Pu2SsEW9W24W15.34YVm1Jc31W1NW72c10IpA3uSi3m74i2FW4Aw1
    QUm1MHf1Ta41kTRzILaDs6Qm2.P.P7jVr6Bw3NW2Be2C.59u2IY32e4Gq12Ap67W2BMi21Fb4Hw3BsNuJ.3Pm1KCy264Z1
    R.1Gi4Oe3Dw1QIY1JVd48m1FMy2LDv2FeBPW.2IwTyA1cBVa15TbULmP5d3Pi4m2Us2Di65o15q3Ja1Pm5qJFfFHW34mKL
    h44y35e2PcGq6s9He4Lw10Ln6Om19eI6sP5d8Uq8SiJBlLoMe6YBBoPY99ye3k2Oo46e24q1Bg111pOaR.Ky5As18cDY1O
    m2Hi2Ig4Iw6Bc14m6Os2Bio22y3m163dA2u2Ba2Ak4G.B3m3UYQRb7Y1Ie50Y12k1KY4Mu17u28W53oFy1Im10Ox5s8wD6
    q1RwBVsKVp3Bq32w21g67w4CpI9Z5c3Se2H6k2EAhGY16c9Pk3Nu26y3g7o7To11k2Cc5cDY3Kq17TjG1w50mC0k2Ge11T
    p2J8c2ADn3w31W28uBsVo2Dm4Hs30i5k3PeHk42y23y18u7uIUpFe22a32q7Ju5Nu1g9RxOVl32i42e4GY2Ao3Pa21.NLx
    FGm13s36o9Vo1o1s50e147Z15g5Hg1Eo3Ce63i27gMu49y2Bc5OY5Au26k13BhMq12a6Ra1SmJi3Iw3FgGo3Em21s5Aw16
    m11Sb9Kq12aSa1OyLuNe1Vs5mFqCu14m9Ca6Jc13FZ8CaQ4s13Eb9i6E.8Da7S.8NcNP,Rq3De28Ks1HDt11RfMRqNA,1X
    BPc8B.1Qc33e98g139t15WNW7mGW3Lm24c3AmLs2Cg2Hi7mG.7y22EW21OX38s1Gy4W1Ta2Kk1c4Eug2Hc2Em13QvDMa15
    c1Co8Mc4BY3Vq2Rg14oRGn33g36o6RiAI.FEr1AW5iNcC2p80aOo1Cs2wGCgQo1Mm11Dx17m8Cu97w11W6Dy118Z2Kk3Dw
    1QqNw11gTu1Iw9e40e2wJo3Ju68.Em1Io3Do53c1Fk13H,6Py27c2OYB5.36a71Y14Dp5Ee35gXW3KcB9mQc1J.9q9c5Ma
    NuSCzU.DqJ.55mNeEu1Ks2Pi71a6Kc2w1P.5CgD3x5Oc4Sc1Vg26i11Kj8Bg3Go1Tm1d6IyP6bRUqS4j4oJgB0Y1Su57Y1
    w3AW2yCNk3LeNVXB4wPMv16o7Y8Pa9W18s2No42YDc5OkQu1Dy4SsJW55wA7bSDfUgKy3Em27m1Ho1IeXW13iIc15aQw.3
    8gcUY1FmAe43w1Ai4q3Vu2oMgIMf2Mo2Tm28m7o1EYHMeP2rHe9NX70gENeOIr2IgGk2Kk2FY16iKW3Cm2Fa3Qw40Y85a1
    04,5Hc1Se1y4WByUgJi1Nq10y6i2Lk1DkMk4Eq1ToEg16o2Jq11w56o33s12Bp133Y17ClVy12yHg83o3FW89gXW1Le32w
    7FkNW11VXCPk2TgEVj32mQgGy10a6c3NwOwAy2Dqo4Ci2Ms1Hu2Vq2Om2Eq3Ms3Pe113x20W5m9.1QgAwXW31iD.3BY2s5
    1oBReSSzLLk1VgSBdFy7NeKcAe18c1Gg19c3FkD.3FkGaOk1NWAw1K.56m3G.1Co158x21k8e.7FaMYDg9a23c1Iu16s29
    iMmC.Cc1oTg2u3a21s2Ek2Rg3Vg43.Dy132v81aTa4OWIy3IuBLW1UkBa48w5i15IX6s3By15.18Y12WJY1Co1GW7uo4oO
    c11a2Ik50e25w1OqDkAu8oU.Uu1P.Ey2PW2Ow4L.17Od1r2KNY2GMr3QW1KgBk1Ty3Dg1Dk2Qs50q.41sXW2g1Sm14q12g
    2Hy13Jt4a7Au4Rg5e75uXWICkUEd5Qq3MW6u1Pk21Vs1TId3GcAk9Fe14SvM4W22aB3i11Sf62i5BW1Oq1Y8y2Tg4Hi3KW
    B2z3MiHJ,Oy33q61m2SW51YRW15a6NY7SuLm1H2w2J0l5QeM8q21.mDuV6hIOYIAg1CW18E,UqNe5Ek11w3Qm1wOsGa3U.
    24.Cg20gHgA4s4VqEo152t44g1Y1Si57o2FmQwMqGe26mKm7B.2Fe3m14q1Ro100hSk13u4w43m21k3Mg98c3UsRkUi1Ve
    8W2Rec56s16yQEjCBjOc4La1BoE.XW37m2Mu42uAi18q50Y3Ca11k4IY1BY52a17EjCuHm9kTa1qRm6s1LYKuJuFg1u5m1
    DY2DCs2BFX1Ga3Y3SmJm1Pa4FYHq1Fm11sXW4qAk5qHY35s19y4k1i7q4k1I.Fg24Y2o1Pi1G.14TXHZ12e14u14WAa1s3
    9aQiCs1Qc36.29w2Qw2Se5i3y2Pa51i53W1H7m2L0v7Rw6o1Ke2Pp4UcTW7Qc2SmFIq17Ll18g17w1i2m33cEW22i12uDo
    CW3Y1HmVm12Y12ycXXEY26BY22JdSi11o8WKge1AuKo11kCg9q8g13Y1IoS.TaBeLW25.34iNy36Y148,27.24c32Y2ImF
    wQy19i2g14oLYCFs2w5MoRAr5AkA2aCQq15Rf3.1Y3s6ic4e6YIY1FekG.DyFo11Y7mBWTs1WsVW3oM.8g1Ku13g1e14mi
    Bc1C.H.3.KwUk1Jw2ByJwc2Y6a12oI.5u1HgOmOaKeVk11oNa.CWSW8s14mFy45cEe2B.165d2JIW295h295k2KDbPc54m
    4Fc3Fc3NiLq7s2Vs4Gi6Dw2Ro14BpB1u3Io2QgA4uRQX2LMc292bQi2IqA8o17q1LeI7f5OsH9a39y15Ah1Ay1o5Y22m6g
    6y2IqDqCmLo5c1k2c13a3L.11Y1Vm1Uie8Y23o16y14w22e4IWGa8WU.7y53.VBzE6WC4YRJj2HQi1VGt1Ca2LY80X1Ayk
    224o1V5fH9f7k2CaDe2mDsCi13yEyS.Kg4o2WH.Dw4O.T.3HY10Y6oPwNeIy1Py1TYHg2Os1Cm5Uq5e130t5o2CY1BW2Jo
    6WHy2CYNiPs49gBk61y6GiMY125bVa7.23w2Om9o3Ag1Jm4y46m1Ku18g4e4e3oQy1J.23Y7uLeTc3q8k1UaTc18q1M.19
    i11qPg2Io16a144j4Eq6Ge1NY6iGc9Ua1PW1QYFc7y64Y47y16GjA5o2Fq9Eg4Mo2HW47kDsOKX46w26i23OY2GQX10iTq
    27uDeHk21W4Y6CsDY1Ec2k26u2Es1wFe4Ju3Fc11Nv2CwC9YQi6E.JgVm1U4W1MB,SCf14e12c1Mg5scTa25.Ke9a11q18
    k20qCwImNY8iI.1Lg6qZ8u2FoDW4uFi1q3Ve4a9s22y2Tq5g5g10c2KW14a156X69i5Fe33c7G.Uy68s10Y1GqQBf19c31
    YGBe5Pw48iILrBVv2HW3Eg36YE4a8m2Lu40u12Th2JJq24H,43yDGo5Ij4Mm10Up1Uq12kDyAoNuSiCkIe1iMi1DwGw3.J
    y9gHs4c2CaLaAsEi11o1BkGc9W9WAuNgJu16W9m9eTWDk1yBiJyOu10oMW4sHY1Aw11sEY1QoGs4aEqIs2e1Tc1wXW2.2s
    GoO.Jy4m13Kj2As9u15m5W91cOq14i18c9o5Sw1NoJ1vQk2e9o2Qs12kLyEgJkQwB.2VY1HuA.1QaSm21WFqIgRg7W2GW6
    c3CePm2EoQ.RQnJ4m3Py17iQLz2Y4cBFk6J.2SuBPd6DlEDg4Mg3wTLf3s19WVk6s7Jo1OoC6c4Pw75q13DZ1Ow1Hy1PiD
    qPg1kZRiHWJc2Ns7c1eNw3k5Io2CkLo38u2DW3q2CqDYe7oNg2iQ8j1UY1JuMY17.32Y18q1Ck1Io54.5Oe20e1Qk4Ua2W
    14Sj4q6Y29s2QiPo2Og27gBo5Pg1Jm22u1Ti21u9iRi11c2gJi1Gm2AaFY1KTk1KQvR9f17e4c2Ae2AX2c1Ro6B.26Fa25
    OZ11s2HW6Pi44mU3j28a2J3c1H9rLCrENZIkO.20w2Cm1Ce2Iq84o86gEy1LgLuSg62c8k14.1Vk5g12Ld2AqGs8m19y3g
    1Cw32a22eHDy15c2Fs1Sc1Mm11UzJW35a1KkVq7FgFOiCwCm1KuQVzIMY1Ss3Fa108l3NgIyEW3Uc7Ri6Qo8TeUFf4Uq81
    cL5s173n53.3Ea32w2Ko76gHKW14PdIy1Ge2Le20i2Ru3Dq5D.4VaA1sAw11SX7FoHs51w85o1KaBGcMLbA5aF6e6u17Rt
    TwNu3Mk3Ty1Fy2Js4Gs6Vw1SJ.1JQjP9x2D4gXW1U7b2UaOs4wIs4Ao1LEs2L0n2L0qXW2G9h16W2Hk1OaJ.5iIu29Ec28
    3XDq1Eo1FkMu26k3u1QkBy1VGu1SVZ1SVc1O3n1O3q1MUr32y2By1HGa1G7f110j49y31u4Ki3GW1Qk8Fo7HWQy21c176n
    8BcDu3VwBJqOOd3Uy3Jk8QeCFmFsNNzL9sR1vKc2No19Y56i55Y84,5SeBUl1FzDa2L2kXX2FV,2G0YXW272fF.26Im22C
    ,26a207W1RNz3.Fg60k1.1L2q1G6z1G7WXX2LEd2LEg2GQt3Ps39s29NoXW21UZ4C.6Fk1N1.1KOl55i11RjOcTa2mPi2E
    Ts2D9n2D9qXW2B4X1h2B5k285f1Ks3oDWi6cIW257.24Bd5m2e243s23TX1c23SW20Kh2Y20Ik1V2X16.1TRe1TMl1TMo1
    OKr39c1LBqXX1JJ,1JKY1EAh1EAkXX2CHp6GY261s23Uz23VWXW1HVX110f2IViXX28TZ28Tc24HlAc1GY74k5w1RDg1HU
    t2Is1PoRRp29Ee23Uj98o1QMWXW2GLz2GMWXW2DVdRq2D3u29Ov6.1Eu3i18sBuKeGu9q4a1gIa9WPa233y22Lb22Le22D
    rVg1Ok24i1THwXW1RB,3NW2M.1KUe1J6p1J6s1H9p1H9sXW2LNbUo2KOu2JQxTq9Hc2Ns1Ly1KY27i1Ee44w1JW2i1PRg1
    OEbPWHsE.1MKw1JGf1JGi1HAhFy14Nv7qBwEq19kFktQm18o5oAyBgSq2Bu2CHs2BU,1OwAq6i14e1Re1LqHwDyQk42u5O
    u1Pw8O.1Di11Bv83o3Ca4iFBaHO,2RsRs24s1Qw3ViQCr3Oi5Vw82y2mLu4La8Dg33o18mLIz3CY2SeXW3Ju2FgAW1AeNT
    bKe1W6Gk6W26e34k6s1q26u2Lc10cIy3y14q4A.4UcUeOIZ3NX37sPW2Ea3IaHLz4Tk8Mm68gFDn25k6aALo12s226uXW2
    KDjHg33kF.6q4g10u2ETmXW2E1t2JiKW7y6u2ACY29Eb29Ee27Nl27No23SZ16i22Ly1VJp2m1Po1mQcNY1S5c1OTdPcQW
    2Jq1KMs1KKd4DcRTf4Rg14c8Au5Gk38wVUXDwEsJY2GYCc1JY1GW18s45e1VmDu5W1D.1C.Ckg5Km1CiPa4Ka2Os4s1IUk
    2LJjCeIiBg19.e2o3Pg4w5a2Fk6o27c66mJwAq18c18.4a2o1Ky1Bm1C.1Ks8q4Mg8iA.Fi29u6eXW121d69a38k4gV.4I
    y4DsB8u3Kq14Np2LJg27NdKw1VcVq79W1AY19u5Fo34s5yGq9EZB1m16AZHFsIJs12OZ15wKc13cZ9a1Fo2qGW26iHm1Bi
    49aBgJq1.1QYHWHo77s2RY3CgHu1KMk1HMfVk2CeR1dJ8c2Dg11HZFw9i19e1Pw1Cm2y10o2Mm2IY3Py20i11q4Qg1Dg1K
    u5oDq12YFwByUs2Le3Nk1Og16DvH.Oa5o2K5y2I9n7s2Ta2u1DmXW4aUc4W2qXW1BuNgTa29CW28Vfk28VW286nXW1Lm6.
    26Ae25Pb25Pe24Ur1LiXW239i22NXDi229w21Nt21NwXW1U2b25a13s29ySe4e1c1Ke1c10ov3wDW8YQi1J6cXW2GSn2GS
    q26V,ABk2q1SIaXW2K9d42s1C.2EPwXW257b24e6Jy62e1MDY1JSX1No1I4qXY1SLvF7Z70.6Kw52i1P5W2H3v4CqD.57Y
    FGm3Sc23a145n2SkCSwBKc8KeOeFuQHn4GyHQ.VBf7UwFVaE4W175v7yEk59w2NeFY1Ey21q1CY4Sw15c3Sk1Bu1Iu16w6
    o15qBg33u11H,5q2i2LDeXW2GAlBa2FVm2DUxIq4YCk2CSWXY23QhQm230W227f5y221o1VUr1VUu1STr2m5a15y7Y1R9k
    XW1MItr1Tg1KMcXW1GFj1o1GEWXW24Rh39e4GYc3Y5H.U6Xm1KcMy2J7y2IJX12e1HuSs1LYBo7Aa25OYXW1U8h2Su1RBu
    1PLx1Vs1NMg1H8fs1H7uXW2LVdLs2g4Nu6Ew4ByGPk1No30q15Bz4Va9.5W36o2CReXW1VUZ1VUc1RAl4NgTLzUW2JBeXX
    2LIv1Pw4EwJMsPUt1Mk16.2Ia3kLami2GmEi6OeS.Di11oNaB.1Gw26s1DsUiJ.VWBc2IiTq50i13NX1P.1Sc7FW7y55g3
    wNy5Oo2DY7CW2Ng3Bc110Z6Nk1Ba1Uc3MgD4x51s4BY65q7k60w7Ak14DfDW24q2Hg8m3g7y19u12w5aBa25m1IkAg1Cq8
    g6q23e1Gm23Rg23ArJu35iSm2Da6moQeEcBm7a3u1G.23k29q1SuIi12G,1Jw16W28o39y2GeEy5k2Qs9kQs6Qg5AY1UY1
    6o84ceMIZ4Mc7J.44y11TdmUg1K.2LY2Ci22Y2CYVqAq19mMw2CW5a19e2VuNy2RcHc5.QY26g15gToPcAW31k49a167vI
    m3DmEa49kHy4OW1TY23Jm21Nl1SqC.JcVaQa1Pw3RYQW9s7y7.Ou1W7Y1Mo128z3mJqBi1YDi1y2Vm1uEg1Ao4y18kSYPi
    2Ue1Qw4q1QqPy1DcHYo1qIa2Ds4W2c1q1Cq5UW2DYu1Fk5g9WGq1DYMW1aBe13Hl82e6.5Ca4Gu26kFkRkL1j4L.Tq8AaO
    a5UWD7q27y1LYTJpDiHFwSNh9g1oRW1q1Te2NuTm1Ak6y4s8sKg17i10i3i5oAscOkMsIaDsDyOY2o3m4WSY8e1Ey7WJy1
    2aIwGm7y7c14aDY2Bq3RuEoRg29W1y8.8.6k5g1Uk5YkAk3Gw16Dn5u1Eu1Ao2VqGcMy1Kg2EW3JY4O.SW3Aa1Uy1KeVu1
    Kw1Kq2Dm3mAcHW3F.17NvNo8iD.1Oq4Ec5m24WIeHw5oBqZ2gOY3sIk2Ho5qVq7.4i18Y19Y11wg8i4a7i10c4o6iIw11m
    2NgAq1RY6u1DsEoQW4yNk25o9s31YRHjB3o8Qw31YS6tBc4Bn7Om84gHFj5NY20mHcBu3Ms2Gg35i30Y1Hg5s9i1Js6CWu
    2Kq9s12Cn40Y39kCa28gE4WOI,Hg4YCu4OeJEmM5rbPk1La14s14iFw3OeDgCY3q2B.4sHoKeIs1IqQm3CiBk2s7k27y2B
    w1MY4s1EuHsAqF.Hyg1Fc2OwFDlQwMDtJmCi30c22mGw4L.1Ug1HyJwLkIY26e2Ng6KW40W5g35k1JgBFzQDfCiSLg4OmV
    5XBL.NX1DkC3qLTv4FY2NY20,6U.23gBk48u36k39aSWVBx2QWCa18i1Y49m1IskMoCYBq9cIe1k1RWF.3s19c4Bq4YIg.
    1Sc1Oq6YFaAs1s26a1Ng1NNY1MFnBs1BgCNz1Ii1.21y12eLNXCy1Aa5BsFe12mc12cI.UqQaOw2Hw9u3qBs5.Io3y6y15
    u22e1g1T.1Jg1MoQe19m11sCi8c1Nu1Bk1Y9g13Od26y2VqEW1LY53i67oFo22uAq3Ha2Ks2VyEc12aL4zNk29Eo2H0jBM
    Y78k8Lc2Cm1DYRHZ13y6PcGNXOg8m1Qs11k3PY8W6Je4e6Mm1DW1V6g1LRh8aQgMIhFi9Gc1KgCAuLY5EuTBr5GW13m1Cc
    3c2UsK.17YTXUk6GcNY3Ne29e3w13Hd4Qk4Gm14mB0aM4Z1Dk2Bk4EWXWAa1RcAIy8BqgTOx1o15g1Bw2Gu2Ag9YSg22sA
    .2s6w1Iu2Fm6.1Ug1Gu27c3AkIYNyEkQ0l3Ju1TY2o1Oa23oA8i2PW32mKi6Ak2.106tB6u9Ma8LkTEn3Vm3GcIPoR3p2K
    Ue2JQt4Uk2Ke9yBq12WBe4Im3Lg5Es6Lk40W5w13Tv26g15i1Pa2Bg3Eo40gJa2Ps3Eu3Pw1Ou3J.Iw16mNY1Vs4YQi12S
    z1Fs9g53e2Eu5Eg72w8Mu2.2Eo11Mv5Ky8AoJy3IY1AY28c2m71i4qPAfQY25o2Ma7Du1JoUa9NaUY15kO1,3Oa3Og98i1
    Kg3Gs68k28i1F2s2JRxABw39kLs7Fa6Gk2Ko3Y57k14Bl6c16q6AwFY5m2Sm7Y4oDu35y9g3JmAgyCg3u38qUc5y7g10Y3
    JqGe1Ty2q2e10Ut3G.DHw2Us7Iq1FoN0X1T.3NuKLmUCj27o1Pu2BWDy1EWCTy13e2Bi6L.MThA0b66o4Uw76f52aEu2Mk
    6sAk24y45W1Ha4FYM.3Ak1Dq15iHi3q5aNgo8c1Ka1LuTm16VvJKu20aPy5m7o16i39k4Pi1u8gHoKUt1Hs5GgH4pAJgRQ
    .16Pl79u6BkDLw6u1sJSdGGa14.4GcSI,6eVu20cVuA5q7Lk7sAwEm5Rk1Uk4Dk1Pe16NzRX2Dw6Lu6Ja8Sn6Dv9w2SY3F
    iOk10k43W22mGq1Vs21k2Y6y1Rq3W1N.3gNe18k2Bi47e3Qy1Es2QW16Gt7.132o7KdTQlCTW3JgFLZ62y5Re2FeFY3Ae2
    0wCRkQW5Rn6UX4yD4j8Hh2S.9s1NYFm3KuMe8e26Y12WCEYA0u1Na2w14RZ1ImVa13o2H8i2BQp2BQs2AIXOqNc3Ug2.23
    e1kAUW52aVUlRiMY3Uc15c4Rg2Gs5i6G.6DsOItJSaEOp9Mk4Ji66yQ5j5Tq2O.72j17w85.25Pg1Q9rQ1x1Ag2Js3FkIu
    53uEs8Y72.2RY10k5Fc1Es40a1GLe2AJx5Dy5Hd7e9Rj1Cc1HWPFWKA,3Hm28PW222r2Nm12W9AqS1f8SkBRe3Qu3Dk43q
    13SZ4EW5i4EqMNs5HuSSx8HwHLyV7h1Ei1Q.29k12e4y17y2Mu5w2E.10s1V.3Ke1Jk5I.53w12Vd2H.83y5Cq19uBSk1F
    y16u21q12B,18c7MW9Ud2Pu5Pc2Ca3KgEg2CyBa3Hs7NY1HkMJX82aMu8BWG9r8K,9Y8Vc80k4OY12a10a86g3MY16w6Md
    QKv3Gq4JyE5y34oR3h3Fk1Ky8W2o37qDJm28e84wDc13Hd1RyocNm7g10q3GY11e18i1kAg2BBa26Ih8i44u18a4Aw5aRW
    Oe5a1Tu8i3Fq1EW31e19gUKv47W2q4JgVi240a2L1b18o6EyUq30Y1Ck2Eq2UY28k7GY21a64.dOW12ObIL.8CvGQgLe65
    .GkT3b1JW9GmFw8Vy3Tg2Se11Gp60e8q6Gm3GYPk2q2Ru3RoBAW15Kz10Uy113ZKs25a2Mq2Rq3Mo38e3Qc7Ic1VW2Ls1P
    Y3C.2Fm11Kf1AmLDo2Cg9AY10Ub29k2i2Mg36k1Cu8a7m7Ju9uAQaXWB.Oe12MZUDcUKl12.8yAu2mAJa1Fs82e28.83k1
    Tu40c157ZCYH0s81c7CY3Y8o13Rr6m5EiFo1Ha15u14i2DkDg24iQq8GqMePW1RT.XW1H0f14MXRY25.1EYSm11W4s31i3
    RW20Y1AwBTkUs9W7i2Pu4MuCu13VrANsC2b76c4DmDVo2GiSQZ2Mk19yEJoEJW3EsGs4.4c11Kj14wMRw1TkK7,4Kg48iD
    LmHOtLMe1Qy10GbCAuDMu4V.13Ph6IY13c1Dc26e39Y1SY1Dq3i4i1Iu2g2Vk2WCa21g31u1ORo1MIn2Mm32kUHzFIe6Sw
    7SaUJh5Ev1Ng2Us1SW34a53u2OY70wc19u7Iy2Ma14On19wCy2Ns3Tm6MY10wJm4u6WEe15m8Y7Ea25oCW3Qm9s1Ga30i1
    43r6UqOq8m2KwFAk4Fa1Mi2Tw14Jx4g2Us25q2i8e1Jo17c1HW1c1Sc5y2OgN.6k8mAc9w4wq7g17eLi3i8kRe1Cq1M.Lg
    1CeSiSi5gPW1aHi20eFe3Kc25g6iRPfKiNMaRHx5Ri3Uo4m30aJGeTKhDyD3iJ4t55g6Kk7i5m1Q.62y4Ng1Pe9JW152hN
    k37q7Ji33a2Gs21o3a4FeJ.38cDYMm5Cw1H9m2AHl3m9PWXWRYM3d3Mc1Rk15k1Di12o1Jo3Ok2FvU.2Sk1Kw1Ku45o9Nw
    4UiRwNErPk26yCGe4Oq11Tr65wLwAiAq3s1w2FmXW1Ma1HwP.6s9qUs1LYUu2Js6k3Iu20i4Fs33w43k15Pf1RW41y9WDo
    3cMe27W9y1Pq1LcSYCc1Fs5GY1LgNk1QY1Tg11wT4ZGFWBTv7DiKPqVHjPo2Dm4Uu3yKgTk2E.3q27i77q8Ca4Do159z6s
    1Oa7g2.Ky3w47sKy3Ra52q17mE2oUIr1o2Na6sC3k8u6w9Ri26eHOtFIYO0Z8Dy5Ck9EmOEn15YB2o66n6g23a19u5B.CQ
    s22w7Qa17QxAIq69a29u8GaJ0dLEs9As16BZBWHcD2.9ScETqSBv2G.2Ni2JyGTb47kG8.6HWFFj1yqBGz63o6Cy99o13e
    OJbGo1R.DW6c1IWHy1Ge1OyZ9q22y8o5Be2YXWEy3GY5q2Rc5B."

/-- The syllables that Windows adds. -/
def windowsKorean : Grid := .ofPacked 0x81 0x41 190
  "2M0cXWcXWiXZqkXWcXXcXbegXXWbXYeXWcXXcXeccXacWbXXcXXcXneXWcXWecXZeiXWiXXcXXcXbegXagcXWeXbegXXcX
    WcXXcXXcXcccXceXWcXWeccXWgceXZeXWcXXccXZeccXacXXcXXcXccXWeXaWbeXWcXXcXbeccXacXXcXXWbcXcccXceXW
    cXWiXYgceXZeXWcXXcXfeXacXmcXceXWcXXcXbecXccXXcXXcXneXWcXWgXaeccXacXcWbXoeXWcXWecXWWbXYeceXXcgc
    XXccXZegXXcXWeXWcXXcXbegXaeXacX1jgcXXcXbegXaeXWcXfcXWccXacXXcXXcXdWbXWeXYcXWcXnWbXdeXWcccXbecg
    XYeXacXfeXaeXncXacXXcXXcXbeXXcXacXveXWcXXcXagceXZcXbcXZWbXbeXaeXWcXXcXbeXWWbcXbcXXcXXcXbeXecXv
    eXWccccXYgccXXcXyeXWcXXcXbeccXagcXWiXZekcgXWcXXcXbegXaeWbXWcXXcXbcXYcXfWbXseeXXceXYegXZgXWcXXc
    XbegXaeXWcXXcXbeXWeXWcXXcXXcXreXWcXXccXZeccXYgXXcXXcXfcXkWbXocXXcXXcWbXbecXceXWcXXcXccccXaeXWc
    XWeXbeccXacXncXbcXvcXXcXXcXbeXeeXacXbeXXcXZWbXWeXWcXXgXZeceXXccXXcXXcXXWbXleXWcXXccXZeccXYcgcX
    WkXXgkXXgXWcXXcXbegXacX1rgcXWeeXYecccXWceXWcXXcXbegXacWbXXcXXcXfeXacXXcWbXreXWcXWeccXXeccccXWc
    XXcXXcXncXncXbcXXcXXcXbecXccXveXWcXXcXbeccWbXacXncXWWbXacXocXacXXcXXcXccccXacXXcXXcXbcXYcXaeXW
    cXWecXZeccXacXveXWcXWeXbeiXZeXWcXXcXbegWbXZgXWcXXcXbegXdWbX1qeXWcXXceXYegXZgXWcXXcXbegXacXncX1
    XeXWcXXcXZWbXccXacXbcXaWbXicXvcXXcX1neXWcXXcXaeXYcX1WcXdWbXncXXcXXcXWWbXaeXXcX1WeXWcXWeXbecXcc
    XXcXXcXbeXecXXcXXcXbeccXaeXWcXXcXbeiXXiXWcXXcXbegXaeXWcXdWbXaccXoWbXjeXWcXXcXbegXZgXWcXXcXbecc
    XaeXWcXXcXbegXacXXcXgccXceXWcXXcXbeccXacXXcXkcXmWbXdcXbcXXcXXcXZWbXXeccXacXXcXXcXccccXaeXWcXXc
    XbeccXacXncXbcXveXWcXXcXbcXWccXaeXWcXXcXbeccXaeXWcXXcWbXbeceXWeXkWbXieXWcXXcXbeccXaeXWckXZeceX
    WcgXWcXXcXbeiXZeXacXgcX1WeXWcXXccXZeceXYgXWcXXcXbegXaWbeXWcXXcXegcXYcXaWbXqeeXXccXZeccXacXXcXj
    eX1WcXXcXXcXccccXacXXcXXcXcccXcgcXWiXZeccXXceXWWbXWcXXcXcccXccXZWbXrcXXcXXcXncXXcXXcXbcXWcXccX
    XcXXcXbcXWcX1YeXWcXWecXZegccXWkXWkXYeccXXcXWeXWcWbXXcXbegXXcXWeXWcXdWbXYcX1aeXWcXWecXZeceXZeXW
    cXWeXbegXaeXWcXXcXccgXXcXWcXXcXrgcXXcXbeccXacXXcXdWbXbcXbcXhWbXbcXbeXWcXXcXbeXecXXcXreXWcXWiXZ
    eccXXecXbcXfcXbcXveXWcXXcXgcXacWbXXcXXcXbcXWccXaeXWcXXWbcXbecX1YeXWcXXccXZecgXYeXWcXXccXZegXZg
    XWcXXcXbegXaeXicX1beXWWbcXWeXbcXWgXacXdWbXgcXaeXiegX1WeXWcXXcXbeXXcX1ycXdWbXncXcWbXhcXaeXWcXXc
    XbcXWccX2ucXocXacXXWbcXXcXbeXkWbXreXWcXXcXbeccXaeeXWiXZegXXcXWeXWcXXcXbegXaeXWcXXcXbeccXacXXcX
    XcXbcXYcXakXWeeXYegXYceXWcXXcXbegXaeXWWbcXXcXbegXacXXcXXcXXWbXecXagcXXccXZeccXXcXWeXWcXXcXgcXa
    cXXcXXcXbcXWeXbcXXcXXcXbecXceXWcXXcXbeccXaeXWcXWeXbecccecXlWbXXcXbeXWcXXcXbcXYcWbXaeXWcXXcXbec
    cXaeXacXbcXWccXaeXWcXXeXaeccX1WeXWcXWeXagccXYceeXXcXbeXWeXZgXWcXXcXbeXWeXdWbXncXcWbXveXWcXXccX
    ZeXWeXacXXcXXcX1ncXreXWcXWecXZeXXcXaeXWcXaWbXecXbcXeWbXecXbcXXcXXcXbeXecXveXWcXXcXbeXXcXacXncX
    bcXvcXXcXdWbXvWbXecXaeXWcXXccXYgXecXXcXXcXbcXfeXWcXXcXbeccXaeXWggXYggXXeeXWcXXcXbegXaeXWcXXcXW
    cXYeccXXceXXcXXcXccXeeWbXWeiXZocceXWcXXcXbeccXWWbXZgcXXceXYmXXiXXcXXcXbeeXbeXWcXXgcXWgcccXYeXW
    cXXcXbegXaeXWcXfcXWccXaeXWcXXcXbeccXaeXWcXXcXbeccXaeXWcXXgXZeccXaeWbXWcXXcXbeXWeXaeXWcXXcXWWbX
    aeXXcXaeXWcXXcXbeccXaeXWcXXcXbecccXYeXWcXXcXZcecqXXcXXcXbcXWcXceXWcXXgXYgiXXceXWcgcXZeiXZeXWcX
    XcXbegXaeXWcccXbcXYWbcXacXXcXXcXiWbXaeXWcXXccXZeceXZeXWcXXcXbeccXacXXcXXcXbeXWeXacXveXWcXXccXZ
    ecgXXgXacXccccXacXneXYWbXXcXXcXXcXbeccXaeXWcWbXkcXaeXWcXXgXZeW2zccXacXnWbcXbcXnWbXdeXWcXXcXbec
    XccXXW2zcXXcXbcXfeXWcXXWbcXbeccXlWbXmeXWcXWecXZeceXWeW2zeXWcccXWcXYegXaeXWcXXcXYWbXYegXacXXcXh
    WbXYcXxW2zXaeXWcXXcXbegXacXWWbXncXacXWWbXmcXjW2zXpeXWcXXcWbXbecccXYeXacXbWbXZcXbcXncXWW2zXacXX
    cXXcXbeXcWbXscXXWbXYeXWcXXcXbeXXcXacXcW2zXgeXjWbXocXbWbXpcXgW2zXkcXfWbXZcXWccXnWbXkeXWcXXcXbeX
    XeXWW2zXXgXWcccXbeiXZeXWcXXcXWWbXaegXacXXcccXbcXWWbXXcXyW2zXZeXWcXXcXbegXaeXWcWbXXcXbeccXacXXc
    XaWbXecXbcXXcXhW2zXYcXaeXWcXXcXbeccXXWbXYcXXcXXcXgcXZWbXycXXW2zcXXcXbeccXacXcWbXccXfeXWcXXcXXW
    bXZeccXacXncW2zXbcXXcXlWbXbcXXcXXcXbeccXZWbXWcXXcXXcXbcXYcXaeXWcXXcXXW2zXZeccXoWbXjeXWcXWgXaec
    WbcXaeXWcXXcXbeccXaeXWcXXcW2zXbegXaeXhWbXbcXoWbXjeXWcXWeXbegXaW2zeXWcXXcXbeccXacXXcXXWbcXbegXa
    cXgWbXkeXWcXXcXbeccXXW2zXYeXWcXXcXbcXYcXacWbXocXacWbXbcXncXbW2zXpeXWcXXcWbXbeccXacXXcXXcXaWbXb
    cXacXoW2zcXaeXWcXXcXbeccXaWbcXXcXXcXbcXfeXWWbcXXcXbeXXcXnW2zXkeXWcXXcXaWbXWeccXaeXWcXXeXaegXZW
    bXWeXWcXXcXbegXacXgW2zXdcXmWbXleXWcXXccXYWbXWegXaeXWcXXcXbeccXacXXcW2zXjcXbcXXcXWWbXqeXWcXXWbc
    XbeccXYccXXcXjW2zXdcXmWbXecXXcXiWbccXacXtW2zXXeXWcXXcXbeccXacXYWbXkcXbcXYWbXseXWcXXcXYW2zXYeXX
    cXacXXcXXcXbcWbXYcXaeXWcXWecXZecXaWbXXcXXcXXcXbeXeeXWcXXcXWW2zXaeccXagcXXccXZegXWWbXWcXWeXWcXX
    cXbegXaeXYWbX,W2zXneXWcXXcXXWbXZegXaeXWcXXcXbeccWbXacXXcXXcXbeXWeXacXaW2zXWcXcccXceXWcXXcXXWbX
    ZeccXacXiWbXbcXuW2zXdcXXcXjWbXdcXXcXXcXcccXXWbXaeXWcXWecXZeccXacXdW2zXgcXjWbXocXXcXXcWbXbcXWcX
    ccXXcXXcXbcXWcW2zcXacXXcXXcXbecXaWbXvWbXZeXWcXXcXbeccXaeXWcXXcXXW2zXWcXWeccXaeXWcXXcXbegXWWbXZ
    cXocXWWbX,W2zeXWcXXccXZeccXaeXWcXXcXWWbXaeccXaeXWcXXcXbeWbgXacXXcXXcXccXeeXWW2zcXXcXYcXWeccXXc
    XWeXWcXXcXZWbXaccXaeXWcXgWbXXccXaeXWcXXcXccccXacXWW2zXWcXXcXcccXceXWcXXWbcXYcXWcXWccXacXXcXXcX
    ZWbXXcXYcXaeXWcXXcXgcXXW2zXYeXWcXXcXbeccXaeXWcWbXXcXbcXWccXaeXWciXZWbXWeccXXcXWcXXcXXcXbeXXcXa
    eXWW2zcXXcXbeccXa"

end Charset
end OpenBroker
